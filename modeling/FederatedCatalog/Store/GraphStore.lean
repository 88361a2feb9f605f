import FederatedCatalog.Foundation.Program
import FederatedCatalog.Store.Cache
import Mathlib.Data.List.Dedup

/-!
# The graph store under the Oxigraph backend

`contreforts_kg::GraphStore` and the `oxigraph` store inside it are not part
of the repository.  They are taken as a set of quads with four atomic calls.
Everything the store leaves open comes with a call as a `StoreChoice`: the
order in which quads and graphs are enumerated, and whether the call fails.
-/

namespace FederatedCatalog.Store

open Foundation FederatedCatalog.Core

structure NamedNode where
  iri : String
  deriving DecidableEq, Repr

inductive NamedOrBlankNode where
  | namedNode (node : NamedNode)
  | blankNode (id : String)
  deriving DecidableEq

inductive Term where
  | namedNode (node : NamedNode)
  | blankNode (id : String)
  | literal (value : String)
  deriving DecidableEq

structure Quad where
  subject : NamedNode
  predicate : NamedNode
  object : Term
  graph : NamedNode
  deriving DecidableEq

structure GraphStore where
  quads : List Quad
  nodup : quads.Nodup

namespace GraphStore

def empty : GraphStore := ⟨[], List.nodup_nil⟩

def insert (store : GraphStore) (quad : Quad) : GraphStore :=
  if fresh : quad ∈ store.quads then store
  else ⟨quad :: store.quads, List.nodup_cons.mpr ⟨fresh, store.nodup⟩⟩

/-- Every quad with this subject leaves the named graph. -/
def removeSubject (store : GraphStore) (subject graph : NamedNode) : GraphStore :=
  ⟨store.quads.filter fun quad => ¬(quad.subject = subject ∧ quad.graph = graph),
    store.nodup.filter _⟩

@[simp]
theorem mem_insert (store : GraphStore) (quad other : Quad) :
    other ∈ (store.insert quad).quads ↔ other = quad ∨ other ∈ store.quads := by
  unfold insert
  split
  · next present =>
    exact ⟨.inr, fun membership => membership.elim (fun same => same ▸ present) id⟩
  · simp

@[simp]
theorem mem_removeSubject (store : GraphStore) (subject graph : NamedNode) (quad : Quad) :
    quad ∈ (store.removeSubject subject graph).quads ↔
      quad ∈ store.quads ∧ ¬(quad.subject = subject ∧ quad.graph = graph) := by
  simp [removeSubject, ← not_and_or]

end GraphStore

inductive StoreCall where
  | removeSubjectFromNamedGraph (subject graph : NamedNode)
  | insertInNamedGraph (subject predicate : NamedNode) (object : Term) (graph : NamedNode)
  /-- The first quad of `quads_for_pattern`. -/
  | firstQuadForPattern (subject predicate : Option NamedNode) (graph : Option NamedNode)
  | namedGraphs

/-- What a store call replies; errors carry the text of a `GraphError` or a
`StorageError`. -/
def StoreCall.Reply : StoreCall → Type
  | .removeSubjectFromNamedGraph _ _ => Except String Unit
  | .insertInNamedGraph _ _ _ _ => Except String Unit
  | .firstQuadForPattern _ _ _ => Option (Except String Quad)
  | .namedGraphs => Except String (List NamedOrBlankNode)

/-- How the store enumerates.  Graphs are listed at least while they hold a
quad, each once; emptied graphs may be listed too. -/
structure StoreOrder where
  quads : List Quad → List Quad
  quads_perm : ∀ stored, (quads stored).Perm stored
  graphs : List Quad → List NamedOrBlankNode
  graphs_nodup : ∀ stored, (graphs stored).Nodup
  graphs_complete : ∀ stored, ∀ quad ∈ stored, .namedNode quad.graph ∈ graphs stored

/-- Quads as stored; graphs in the order of their latest quad. -/
def StoreOrder.plain : StoreOrder where
  quads stored := stored
  quads_perm _ := List.Perm.refl _
  graphs stored := (stored.map fun quad => NamedOrBlankNode.namedNode quad.graph).dedup
  graphs_nodup _ := List.nodup_dedup _
  graphs_complete _ quad membership :=
    List.mem_dedup.mpr (List.mem_map.mpr ⟨quad, membership, rfl⟩)

structure StoreChoice where
  order : StoreOrder
  /-- A call that fails changes nothing and reports this text. -/
  fault : Option String

def StoreOrder.choice (order : StoreOrder) : StoreChoice := ⟨order, none⟩

def Quad.matches (subject predicate graph : Option NamedNode) (quad : Quad) : Bool :=
  subject.all (quad.subject = ·) && predicate.all (quad.predicate = ·) &&
    graph.all (quad.graph = ·)

namespace StoreCall

def answer (order : StoreOrder) (store : GraphStore) :
    (request : StoreCall) → request.Reply × GraphStore
  | .removeSubjectFromNamedGraph subject graph => (.ok (), store.removeSubject subject graph)
  | .insertInNamedGraph subject predicate object graph =>
      (.ok (), store.insert ⟨subject, predicate, object, graph⟩)
  | .firstQuadForPattern subject predicate graph =>
      (((order.quads store.quads).find? (Quad.matches subject predicate graph)).map .ok, store)
  | .namedGraphs => (.ok (order.graphs store.quads), store)

def failed (message : String) : (request : StoreCall) → request.Reply
  | .removeSubjectFromNamedGraph _ _ => .error message
  | .insertInNamedGraph _ _ _ _ => .error message
  | .firstQuadForPattern _ _ _ => some (.error message)
  | .namedGraphs => .error message

def perform (choice : StoreChoice) (store : GraphStore) (request : StoreCall) :
    request.Reply × GraphStore :=
  match choice.fault with
  | none => answer choice.order store request
  | some message => (failed message request, store)

@[simp]
theorem perform_choice (order : StoreOrder) (store : GraphStore) (request : StoreCall) :
    perform order.choice store request = answer order store request := rfl

end StoreCall

abbrev StoreProgram := Program StoreCall StoreCall.Reply

end FederatedCatalog.Store
