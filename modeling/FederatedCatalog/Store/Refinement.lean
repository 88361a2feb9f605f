import FederatedCatalog.Store.Memory
import FederatedCatalog.Store.Oxigraph
import Mathlib.Data.List.Induction

/-!
# Both backends refine one map

The simulation relation says that the graph store holds exactly the quads of
the catalogs in a map, each in the graph of its own node.  It makes every read
independent of the store's enumeration order, and every sequential operation
preserves it.
-/

namespace FederatedCatalog.Store

open Foundation FederatedCatalog.Core Json

variable (support : OxigraphSupport)

def iriOf (node : NodeId) : NamedNode := ⟨nodeNs ++ support.iris.encode node.value⟩

@[simp]
theorem nodeIri_eq (node : NodeId) : nodeIri support node = .ok (iriOf support node) := by
  simp [nodeIri, iriOf, support.iris.namedNode_encoded]

theorem iriOf_injective : Function.Injective (iriOf support) := by
  intro first second same
  have texts : nodeNs ++ support.iris.encode first.value =
      nodeNs ++ support.iris.encode second.value := congrArg NamedNode.iri same
  have encoded : support.iris.encode first.value = support.iris.encode second.value := by
    apply String.toList_inj.mp
    have lists := congrArg String.toList texts
    rw [String.toList_append, String.toList_append] at lists
    exact List.append_cancel_left lists
  have decoded := congrArg support.iris.decode encoded
  rw [support.iris.decode_encode, support.iris.decode_encode] at decoded
  cases first
  cases second
  cases decoded
  rfl

@[simp]
theorem iriOf_inj {first second : NodeId} :
    iriOf support first = iriOf support second ↔ first = second :=
  (iriOf_injective support).eq_iff

def catalogQuad (catalog : Catalog) : Quad where
  subject := iriOf support catalog.originNode
  predicate := catalogJsonPredicate
  object := .literal (support.json.print catalog.toValue)
  graph := iriOf support catalog.originNode

@[simp]
theorem readObject_catalogQuad (catalog : Catalog) :
    OxigraphCatalogCache.readObject support (catalogQuad support catalog).object =
      .ok catalog := by
  simp [OxigraphCatalogCache.readObject, catalogQuad]

theorem Keyed.entry_eq {support : OxigraphSupport} {map : CatalogMap} (keyed : Keyed map)
    (node : NodeId) {found : Option Catalog}
    (characterized : ∀ catalog, found = some catalog ↔
      map catalog.originNode = some catalog ∧
        iriOf support catalog.originNode = iriOf support node) :
    map node = found := by
  cases stored : map node with
  | none =>
      cases found with
      | none => rfl
      | some catalog =>
          obtain ⟨present, sameIri⟩ := (characterized catalog).mp rfl
          rw [iriOf_injective support sameIri, stored] at present
          cases present
  | some catalog =>
      have own := keyed node catalog stored
      exact ((characterized catalog).mpr ⟨own ▸ stored, by rw [own]⟩).symm

structure Represents (map : CatalogMap) (store : GraphStore) : Prop where
  keyed : Keyed map
  quads : ∀ quad, quad ∈ store.quads ↔
    ∃ catalog, map catalog.originNode = some catalog ∧ quad = catalogQuad support catalog

namespace Represents

variable {support} {map : CatalogMap} {store : GraphStore}

theorem empty : Represents support (fun _ => none) GraphStore.empty where
  keyed := by intro node catalog present; cases present
  quads := by simp [GraphStore.empty]

theorem removeSubject (represents : Represents support map store) (node : NodeId) :
    Represents support (map.remove node)
      (store.removeSubject (iriOf support node) (iriOf support node)) where
  keyed := represents.keyed.apply (.delete node)
  quads := by
    intro quad
    rw [GraphStore.mem_removeSubject, represents.quads]
    constructor
    · rintro ⟨⟨catalog, stored, rfl⟩, kept⟩
      refine ⟨catalog, ?_, rfl⟩
      have different : catalog.originNode ≠ node := by simpa [catalogQuad] using kept
      rw [KeyedMap.remove_apply, if_neg different, stored]
    · rintro ⟨catalog, stored, rfl⟩
      rw [KeyedMap.remove_apply] at stored
      split at stored
      · cases stored
      · next different => exact ⟨⟨catalog, stored, rfl⟩, by simpa [catalogQuad] using different⟩

theorem insert (represents : Represents support map store) (catalog : Catalog)
    (vacant : map catalog.originNode = none) :
    Represents support (map.store Catalog.originNode catalog)
      (store.insert (catalogQuad support catalog)) where
  keyed := represents.keyed.apply (.upsert catalog)
  quads := by
    intro quad
    rw [GraphStore.mem_insert, represents.quads]
    constructor
    · rintro (rfl | ⟨other, stored, rfl⟩)
      · exact ⟨catalog, KeyedMap.store_same _ _ _, rfl⟩
      · refine ⟨other, ?_, rfl⟩
        have different : other.originNode ≠ catalog.originNode := by
          intro same
          rw [same, vacant] at stored
          cases stored
        rw [KeyedMap.store_apply, if_neg different, stored]
    · rintro ⟨other, stored, rfl⟩
      rw [KeyedMap.store_apply] at stored
      split at stored
      · cases stored
        exact .inl rfl
      · exact .inr ⟨other, stored, rfl⟩

/-- Looking into a graph finds the one catalog it holds, whatever the order. -/
theorem find (represents : Represents support map store) (order : StoreOrder)
    {predicate : Option NamedNode}
    (known : predicate = none ∨ predicate = some catalogJsonPredicate) (graph : NamedNode) :
    ∃ found : Option Catalog,
      (order.quads store.quads).find? (Quad.matches (some graph) predicate (some graph)) =
        found.map (catalogQuad support) ∧
      ∀ catalog, found = some catalog ↔
        map catalog.originNode = some catalog ∧ iriOf support catalog.originNode = graph := by
  cases search :
      (order.quads store.quads).find? (Quad.matches (some graph) predicate (some graph)) with
  | none =>
      refine ⟨none, rfl, ?_⟩
      intro catalog
      refine ⟨by simp, ?_⟩
      rintro ⟨stored, rfl⟩
      have listed : catalogQuad support catalog ∈ order.quads store.quads :=
        (order.quads_perm _).mem_iff.mpr ((represents.quads _).mpr ⟨catalog, stored, rfl⟩)
      have rejected := List.find?_eq_none.mp search _ listed
      have matched : Quad.matches (some (iriOf support catalog.originNode)) predicate
          (some (iriOf support catalog.originNode)) (catalogQuad support catalog) = true := by
        rcases known with rfl | rfl <;> simp [Quad.matches, catalogQuad]
      exact absurd matched rejected
  | some quad =>
      have membership := (order.quads_perm _).mem_iff.mp (List.mem_of_find?_eq_some search)
      obtain ⟨catalog, stored, rfl⟩ := (represents.quads _).mp membership
      have matched := List.find?_some search
      have inGraph : iriOf support catalog.originNode = graph := by
        simp only [Quad.matches, catalogQuad, Option.all_some, Bool.and_eq_true] at matched
        exact of_decide_eq_true matched.2
      refine ⟨some catalog, rfl, ?_⟩
      intro other
      constructor
      · rintro ⟨⟩
        exact ⟨stored, inGraph⟩
      · rintro ⟨otherStored, otherInGraph⟩
        have sameNode := iriOf_injective support (inGraph.trans otherInGraph.symm)
        rw [sameNode, otherStored] at stored
        exact congrArg some (Option.some.inj stored).symm

/-- The graphs a listing names are those of all entries, and maybe some without one. -/
theorem enumerates (represents : Represents support map store) (order : StoreOrder)
    {found : List Catalog}
    (members : ∀ catalog, catalog ∈ found ↔ map catalog.originNode = some catalog ∧
      .namedNode (iriOf support catalog.originNode) ∈ order.graphs store.quads)
    (distinct : (found.map Catalog.originNode).Nodup) :
    Enumerates Catalog.originNode map found where
  distinct := distinct
  stored := fun catalog membership => ((members catalog).mp membership).1
  complete := by
    intro node catalog stored
    have own := represents.keyed node catalog stored
    refine ⟨(members catalog).mpr ⟨own ▸ stored, ?_⟩, own⟩
    have inStore := (represents.quads (catalogQuad support catalog)).mpr
      ⟨catalog, own ▸ stored, rfl⟩
    exact order.graphs_complete store.quads _ inStore

end Represents

/-! ## Running the operations alone -/

/-- Store calls that all succeed, each with its own enumeration order. -/
def steady (orders : Nat → StoreOrder) : Nat → StoreChoice := fun index => (orders index).choice

@[simp]
theorem steady_apply (orders : Nat → StoreOrder) (index : Nat) :
    steady orders index = (orders index).choice := rfl

namespace OxigraphCatalogCache

variable {support} {map : CatalogMap} {store : GraphStore}

theorem loadGraph_bind (represents : Represents support map store) (orders : Nat → StoreOrder)
    (graph : NamedNode) :
    ∃ found : Option Catalog,
      (∀ catalog, found = some catalog ↔
        map catalog.originNode = some catalog ∧ iriOf support catalog.originNode = graph) ∧
      ∀ {Result : Type} (next : StoreResult (Option Catalog) → StoreProgram Result),
        ((loadGraph support graph).bind next).run StoreCall.perform (steady orders) store =
          (next (.ok found)).run StoreCall.perform (steady fun index => orders (index + 1))
            store := by
  obtain ⟨found, search, characterized⟩ :=
    represents.find (orders 0) (.inr rfl) graph
  refine ⟨found, characterized, ?_⟩
  intro Result next
  cases found with
  | none =>
      simp [loadGraph, StoreCall.answer, search]
      rfl
  | some catalog =>
      simp [loadGraph, StoreCall.answer, search, orFail, Except.map]
      rfl

theorem loadGraphs_run (represents : Represents support map store) (orders : Nat → StoreOrder)
    (names : List NamedOrBlankNode) (results : List Catalog) :
    ∃ found : List Catalog,
      (∀ catalog, catalog ∈ found ↔ map catalog.originNode = some catalog ∧
        .namedNode (iriOf support catalog.originNode) ∈ names) ∧
      (names.Nodup → (found.map Catalog.originNode).Nodup) ∧
      ∃ later, ∀ {Result : Type} (next : StoreResult (List Catalog) → StoreProgram Result),
        ((loadGraphs support names results).bind next).run StoreCall.perform (steady orders)
          store =
        (next (.ok (results ++ found))).run StoreCall.perform (steady later) store := by
  induction names generalizing orders results with
  | nil => exact ⟨[], by simp, by simp, orders, by simp [loadGraphs]⟩
  | cons name rest inductionHypothesis =>
      cases name with
      | blankNode id =>
          obtain ⟨found, members, distinct, later, runs⟩ := inductionHypothesis orders results
          exact ⟨found, by simpa using members,
            fun nodup => distinct (List.nodup_cons.mp nodup).2, later, runs⟩
      | namedNode graph =>
          obtain ⟨entry, characterized, loads⟩ := loadGraph_bind represents orders graph
          obtain ⟨found, members, distinct, later, runs⟩ :=
            inductionHypothesis (fun index => orders (index + 1)) (results ++ entry.toList)
          refine ⟨entry.toList ++ found, ?_, ?_, later, ?_⟩
          · intro catalog
            simp only [List.mem_append, Option.mem_toList, members, characterized,
              List.mem_cons, NamedOrBlankNode.namedNode.injEq]
            tauto
          · intro nodup
            have parts := List.nodup_cons.mp nodup
            cases entry with
            | none => simpa using distinct parts.2
            | some catalog =>
                have own := (characterized catalog).mp rfl
                refine List.nodup_cons.mpr ⟨?_, distinct parts.2⟩
                intro repeated
                obtain ⟨other, inFound, sameNode⟩ := List.mem_map.mp repeated
                have inRest := ((members other).mp inFound).2
                rw [sameNode, own.2] at inRest
                exact parts.1 inRest
          · intro Result next
            have assoc : ((loadGraphs support (.namedNode graph :: rest) results).bind next).run
                StoreCall.perform (steady orders) store =
              ((loadGraphs support rest (results ++ entry.toList)).bind next).run
                StoreCall.perform (steady fun index => orders (index + 1)) store := by
              rw [loadGraphs, Program.bind_assoc, loads]
              cases entry <;> simp
            rw [assoc, runs, List.append_assoc]

theorem upsert_run (represents : Represents support map store) (orders : Nat → StoreOrder)
    (catalog : Catalog) :
    ((upsert support catalog).run StoreCall.perform (steady orders) store).1 = .ok () ∧
      Represents support (map.store Catalog.originNode catalog)
        ((upsert support catalog).run StoreCall.perform (steady orders) store).2 := by
  refine ⟨by simp [upsert, orFail, StoreCall.answer], ?_⟩
  have cleared := represents.removeSubject catalog.originNode
  have filled := cleared.insert catalog (by simp [KeyedMap.remove_apply])
  have same : (map.remove catalog.originNode).store Catalog.originNode catalog =
      map.store Catalog.originNode catalog := by
    funext node
    simp only [KeyedMap.store_apply, KeyedMap.remove_apply]
    split <;> rfl
  rw [same] at filled
  simpa [upsert, orFail, StoreCall.answer, catalogQuad] using filled

theorem delete_refines (represents : Represents support map store)
    (orders : Nat → StoreOrder) (node : NodeId) :
    Answers map (.delete node) (perform support (steady orders) store (.delete node)).1 ∧
      Represents support (map.remove node)
        (perform support (steady orders) store (.delete node)).2 := by
  obtain ⟨found, search, characterized⟩ :=
    represents.find (orders 0) (.inl rfl) (iriOf support node)
  have entry := represents.keyed.entry_eq node characterized
  cases found with
  | none =>
      have vacant : map.remove node = map := by
        funext other
        rw [KeyedMap.remove_apply]
        split
        · next same => rw [same, entry]
        · rfl
      simp [perform, program, delete, hasSubject, StoreCall.answer, search, Answers, entry,
        vacant, represents]
  | some catalog =>
      have cleared := represents.removeSubject node
      simpa [perform, program, delete, hasSubject, orFail, StoreCall.answer, search, Answers,
        entry] using cleared

theorem query_node_run (represents : Represents support map store) (orders : Nat → StoreOrder)
    (node : NodeId) (offset : Nat) (limit : Option Nat) :
    perform support (steady orders) store (.query ⟨some node, offset, limit⟩) =
      (.found (.ok ((CatalogQuery.mk (some node) offset limit).paginate (map node).toList)),
        store) := by
  obtain ⟨found, characterized, loads⟩ := loadGraph_bind represents orders (iriOf support node)
  have entry := represents.keyed.entry_eq node characterized
  simp only [perform, program, OxigraphCatalogCache.query, collect, nodeIri_eq,
    Program.bind_assoc, loads]
  rw [entry]
  rfl

theorem query_all_run (represents : Represents support map store) (orders : Nat → StoreOrder)
    (offset : Nat) (limit : Option Nat) :
    ∃ found, Enumerates Catalog.originNode map found ∧
      perform support (steady orders) store (.query ⟨none, offset, limit⟩) =
        (.found (.ok ((CatalogQuery.mk none offset limit).paginate found)), store) := by
  obtain ⟨found, members, distinct, later, runs⟩ :=
    loadGraphs_run represents (fun index => orders (index + 1))
      ((orders 0).graphs store.quads) []
  refine ⟨found, represents.enumerates (orders 0) members
    (distinct ((orders 0).graphs_nodup store.quads)), ?_⟩
  simp only [perform, program, OxigraphCatalogCache.query, collect,
    Program.bind_call, Program.run_call, steady_apply, StoreCall.perform_choice,
    StoreCall.answer, orFail, Program.bind_assoc]
  exact runs _

/-- Each operation, run alone, answers as the abstract store does. -/
theorem perform_refines (represents : Represents support map store)
    (orders : Nat → StoreOrder) (operation : Operation) :
    Answers map operation (perform support (steady orders) store operation).1 ∧
      Represents support (operation.apply map)
        (perform support (steady orders) store operation).2 := by
  cases operation with
  | upsert catalog =>
      obtain ⟨result, refined⟩ := upsert_run represents orders catalog
      rw [perform, program, Program.run_bind_done, result]
      exact ⟨rfl, refined⟩
  | delete node => exact delete_refines represents orders node
  | query query =>
      rcases query with ⟨originNode, offset, limit⟩
      cases originNode with
      | some node =>
          rw [query_node_run represents]
          exact ⟨answers_query_node map node offset limit, represents⟩
      | none =>
          obtain ⟨found, listed, ran⟩ := query_all_run represents orders offset limit
          rw [ran]
          exact ⟨answers_query_all listed offset limit, represents⟩

end OxigraphCatalogCache

def CacheView.memory (order : MapOrder) (cache : InMemoryCatalogCache)
    (keyed : cache.WellKeyed) : CacheView where
  content := cache.content
  query := cache.query order
  answers asked catalogs found := by
    have answered := InMemoryCatalogCache.perform_answers order keyed (.query asked)
    rw [← found]
    exact answered

def CacheView.holding (catalogs : List Catalog) : CacheView :=
  .memory .entries (.holding catalogs) (InMemoryCatalogCache.holding_wellKeyed catalogs)

def CacheView.oxigraph {map : CatalogMap} {store : GraphStore}
    (represents : Represents support map store) (orders : Nat → StoreOrder) : CacheView where
  content := map
  query asked :=
    ((OxigraphCatalogCache.query support asked).run StoreCall.perform (steady orders) store).1
  answers asked catalogs found := by
    have answered := (OxigraphCatalogCache.perform_refines represents orders (.query asked)).1
    rw [OxigraphCatalogCache.perform, OxigraphCatalogCache.program, Program.run_bind_done,
      found] at answered
    exact answered

/-- One call, with what the environment decides during it on either backend. -/
structure Turn where
  operation : Operation
  mapOrder : MapOrder
  storeOrders : Nat → StoreOrder

def memoryAfter (turns : List Turn) : InMemoryCatalogCache :=
  turns.foldl (fun cache turn => (cache.perform turn.mapOrder turn.operation).2) .new

def oxigraphAfter (turns : List Turn) : GraphStore :=
  turns.foldl (fun store turn =>
    (OxigraphCatalogCache.perform support (steady turn.storeOrders) store turn.operation).2) .empty

theorem content_memoryAfter (turns : List Turn) :
    (memoryAfter turns).content = contentAfter (turns.map Turn.operation) := by
  induction turns using List.reverseRecOn with
  | nil => rfl
  | append_singleton turns turn inductionHypothesis =>
      simp only [memoryAfter, contentAfter, List.foldl_append, List.map_append, List.map_cons,
        List.map_nil, List.foldl_cons, List.foldl_nil] at inductionHypothesis ⊢
      rw [InMemoryCatalogCache.content_perform, inductionHypothesis]

theorem represents_oxigraphAfter (turns : List Turn) :
    Represents support (contentAfter (turns.map Turn.operation)) (oxigraphAfter support turns) := by
  induction turns using List.reverseRecOn with
  | nil => exact Represents.empty
  | append_singleton turns turn inductionHypothesis =>
      simp only [oxigraphAfter, contentAfter, List.foldl_append, List.map_append, List.map_cons,
        List.map_nil, List.foldl_cons, List.foldl_nil] at inductionHypothesis ⊢
      exact (OxigraphCatalogCache.perform_refines inductionHypothesis turn.storeOrders
        turn.operation).2

/-- The two backends answer a call as the same map does, and agree with each
other wherever the map leaves only one answer. -/
structure BehavesAs (map : CatalogMap) (operation : Operation) (memory oxigraph : Outcome) :
    Prop where
  memory_answers : Answers map operation memory
  oxigraph_answers : Answers map operation oxigraph
  same_unless_listing : (∀ query, operation = .query query → query.originNode ≠ none) →
    memory = oxigraph
  same_pages : DistinctIds map → memory = oxigraph

theorem backends_refine_one_map (turns : List Turn) (turn : Turn) :
    BehavesAs (contentAfter (turns.map Turn.operation)) turn.operation
      ((memoryAfter turns).perform turn.mapOrder turn.operation).1
      (OxigraphCatalogCache.perform support (steady turn.storeOrders)
        (oxigraphAfter support turns) turn.operation).1 := by
  have represents := represents_oxigraphAfter support turns
  have oxigraph := (OxigraphCatalogCache.perform_refines represents turn.storeOrders
    turn.operation).1
  have keyed : (memoryAfter turns).WellKeyed := by
    rw [InMemoryCatalogCache.WellKeyed, content_memoryAfter]
    exact keyed_contentAfter _
  have memory := InMemoryCatalogCache.perform_answers turn.mapOrder keyed turn.operation
  rw [content_memoryAfter] at memory
  refine ⟨memory, oxigraph, ?_, fun distinct => memory.unique distinct oxigraph⟩
  intro selective
  cases shape : turn.operation with
  | upsert catalog =>
      rw [shape] at memory oxigraph
      exact Eq.trans memory (Eq.symm oxigraph)
  | delete node =>
      rw [shape] at memory oxigraph
      exact Eq.trans memory (Eq.symm oxigraph)
  | query query =>
      have named := selective query shape
      rcases query with ⟨originNode, offset, limit⟩
      cases originNode with
      | none => exact absurd rfl named
      | some node =>
          rw [shape] at memory oxigraph
          exact Eq.trans memory (Eq.symm oxigraph)

end FederatedCatalog.Store
