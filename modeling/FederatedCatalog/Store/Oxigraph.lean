import FederatedCatalog.Json.Text
import FederatedCatalog.Store.GraphStore

/-!
# The Oxigraph backend

One named graph per origin node, holding one triple: the node's IRI, the
`catalogJson` predicate, and the catalog as a JSON literal.  The operations of
`OxigraphCatalogCache` are programs over the graph store's atomic calls, so
that they can be run alone or interleaved.
-/

namespace FederatedCatalog.Store

open Foundation FederatedCatalog.Core Json

def nodeNs : String := "https://federated-catalog-rs.internal/nodes/"

def catalogJsonPredicate : NamedNode :=
  ⟨"https://federated-catalog-rs.internal/ns#catalogJson"⟩

/-- `urlencoding` and the IRI check of `NamedNode::new`. -/
structure IriSyntax where
  encode : String → String
  decode : String → Option String
  decode_encode : ∀ text, decode (encode text) = some text
  namedNode : String → Except String NamedNode
  namedNode_encoded : ∀ text, namedNode (nodeNs ++ encode text) = .ok ⟨nodeNs ++ encode text⟩

/-- The third-party code the Oxigraph backend is written against. -/
structure OxigraphSupport where
  iris : IriSyntax
  json : TextFormat
  debugTerm : Term → String

/-- Characters that no IRI contains: white space, quotes, brackets and the like. -/
def iriChar (char : Char) : Bool :=
  decide (32 < char.toNat) && char.toNat ∉ [34, 60, 62, 92, 94, 96, 123, 124, 125]

theorem iriChar_nodeNs : ∀ char ∈ nodeNs.toList, iriChar char = true :=
  List.all_eq_true.mp (by decide)

theorem iriChar_encoded {char : Char} (encoded : Percent.unreserved char = true ∨ char = '%') :
    iriChar char = true := by
  have between : ∀ code, (65 ≤ code ∧ code ≤ 90 ∨ 97 ≤ code ∧ code ≤ 122 ∨
      48 ≤ code ∧ code ≤ 57) → 32 < code ∧ code ∉ [34, 60, 62, 92, 94, 96, 123, 124, 125] := by
    intro code range
    simp only [List.mem_cons, List.not_mem_nil, or_false]
    omega
  have alpha : char.isAlpha = (decide (char.val ≥ 65 ∧ char.val ≤ 90) ||
      (decide (char.val ≥ 97) && decide (char.val ≤ 122))) := rfl
  rcases encoded with plain | rfl
  · simp only [Percent.unreserved, Char.isAlphanum, alpha, Char.isDigit, Bool.or_eq_true, Bool.and_eq_true, decide_eq_true_eq, ge_iff_le,
      UInt32.le_iff_toNat_le] at plain
    rcases plain with (((((upper | lower) | digit) | rfl) | rfl) | rfl) | rfl
    · simpa [iriChar] using between char.toNat (.inl upper)
    · simpa [iriChar] using between char.toNat (.inr (.inl lower))
    · simpa [iriChar] using between char.toNat (.inr (.inr digit))
    all_goals decide
  · decide

/-- Percent-encoding, and a check of every character of an IRI. -/
def IriSyntax.standard : IriSyntax where
  encode := Percent.encode
  decode := Percent.decode
  decode_encode := Percent.decode_encode
  namedNode iri := if iri.toList.all iriChar then .ok ⟨iri⟩ else .error "Invalid IRI character"
  namedNode_encoded := by
    intro text
    have valid : (nodeNs ++ Percent.encode text).toList.all iriChar = true := by
      rw [String.toList_append, List.all_append, Bool.and_eq_true, List.all_eq_true,
        List.all_eq_true]
      exact ⟨iriChar_nodeNs,
        fun char membership => iriChar_encoded (Percent.encode_chars text char membership)⟩
    rw [if_pos valid]

def OxigraphSupport.standard : OxigraphSupport where
  iris := .standard
  json := Text.format
  debugTerm
    | .namedNode node => "NamedNode(" ++ node.iri ++ ")"
    | .blankNode id => "BlankNode(" ++ id ++ ")"
    | .literal value => "Literal(" ++ value ++ ")"

variable (support : OxigraphSupport)

def nodeIri (node : NodeId) : StoreResult NamedNode :=
  match support.iris.namedNode (nodeNs ++ support.iris.encode node.value) with
  | .ok iri => .ok iri
  | .error message => .error (.backend ("invalid node IRI: " ++ message))

/-- The `?` operator on a store call's result. -/
def orFail {Item Result : Type} (reply : Except String Item)
    (next : Item → StoreProgram (StoreResult Result)) : StoreProgram (StoreResult Result) :=
  match reply with
  | .ok item => next item
  | .error message => .done (.error (.backend message))

namespace OxigraphCatalogCache

/-- What a quad's object deserializes to. -/
def readObject : Term → StoreResult Catalog
  | .literal json =>
      match support.json.readSlice Catalog.fromValue (utf8 json) with
      | .ok catalog => .ok catalog
      | .error message => .error (.backend ("failed to deserialize catalog: " ++ message))
  | other =>
      .error (.backend ("expected a literal catalogJson object, got " ++ support.debugTerm other))

def loadGraph (graphIri : NamedNode) : StoreProgram (StoreResult (Option Catalog)) :=
  .call (.firstQuadForPattern (some graphIri) (some catalogJsonPredicate) (some graphIri))
    fun
    | none => .done (.ok none)
    | some reply => orFail reply fun quad => .done ((readObject support quad.object).map some)

def hasSubject (subject : NamedNode) : StoreProgram (StoreResult Bool) :=
  .call (.firstQuadForPattern (some subject) none (some subject)) fun
    | some reply => orFail reply fun _ => .done (.ok true)
    | none => .done (.ok false)

def upsert (catalog : Catalog) : StoreProgram (StoreResult Unit) :=
  match nodeIri support catalog.originNode with
  | .error error => .done (.error error)
  | .ok subject =>
      let object := Term.literal (support.json.print catalog.toValue)
      .call (.removeSubjectFromNamedGraph subject subject) fun removed =>
        orFail removed fun _ =>
          .call (.insertInNamedGraph subject catalogJsonPredicate object subject) fun inserted =>
            orFail inserted fun _ => .done (.ok ())

/-- The loop of `query` over all graph names. -/
def loadGraphs : List NamedOrBlankNode → List Catalog → StoreProgram (StoreResult (List Catalog))
  | [], results => .done (.ok results)
  -- this backend never writes blank-node graphs
  | .blankNode _ :: rest, results => loadGraphs rest results
  | .namedNode graphIri :: rest, results =>
      (loadGraph support graphIri).bind fun
        | .error error => .done (.error error)
        | .ok none => loadGraphs rest results
        | .ok (some catalog) => loadGraphs rest (results ++ [catalog])

def collect (query : CatalogQuery) : StoreProgram (StoreResult (List Catalog)) :=
  match query.originNode with
  | some node =>
      match nodeIri support node with
      | .error error => .done (.error error)
      | .ok subject =>
          (loadGraph support subject).bind fun loaded => .done (loaded.map Option.toList)
  | none => .call .namedGraphs fun graphNames => orFail graphNames (loadGraphs support · [])

def query (query : CatalogQuery) : StoreProgram (StoreResult (List Catalog)) :=
  (collect support query).bind fun results => .done (results.map query.paginate)

def delete (node : NodeId) : StoreProgram (StoreResult Bool) :=
  match nodeIri support node with
  | .error error => .done (.error error)
  | .ok subject =>
      (hasSubject subject).bind fun
        | .error error => .done (.error error)
        | .ok false => .done (.ok false)
        | .ok true =>
            .call (.removeSubjectFromNamedGraph subject subject) fun removed =>
              orFail removed fun _ => .done (.ok true)

/-- The program behind one trait call. -/
def program : Operation → StoreProgram Outcome
  | .upsert catalog => (upsert support catalog).bind fun result => .done (.upserted result)
  | .query query =>
      (OxigraphCatalogCache.query support query).bind fun result => .done (.found result)
  | .delete node => (delete support node).bind fun result => .done (.deleted result)

def perform (choices : Nat → StoreChoice) (store : GraphStore) (operation : Operation) :
    Outcome × GraphStore :=
  (program support operation).run StoreCall.perform choices store

end OxigraphCatalogCache

end FederatedCatalog.Store
