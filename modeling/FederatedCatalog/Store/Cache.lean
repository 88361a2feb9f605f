import FederatedCatalog.Core.Catalog
import Mathlib.Data.List.Induction

/-!
# The cache interface of `rdf-store`

Queries, errors and results shared by the two `CatalogCache` backends, and the
abstract store that both stand for: a map from origin node to catalog.
-/

namespace FederatedCatalog.Store

open Foundation FederatedCatalog.Core

inductive StoreError where
  | backend (message : String)
  deriving DecidableEq

abbrev StoreResult := Except StoreError

def StoreError.display : StoreError → String
  | .backend message => "catalog store backend error: " ++ message

structure CatalogQuery where
  originNode : Option NodeId
  offset : Nat
  limit : Option Nat
  deriving DecidableEq

namespace CatalogQuery

/-- No filter, no offset, no limit. -/
def all : CatalogQuery := ⟨none, 0, none⟩

/-- Only the catalog crawled from `node`, if any. -/
def forNode (node : NodeId) : CatalogQuery := ⟨some node, 0, none⟩

/-- The deterministic ordering and pagination both backends end a query with. -/
def paginate (query : CatalogQuery) (results : List Catalog) : List Catalog :=
  page query.offset query.limit (sortBy Catalog.id results)

@[simp]
theorem paginate_all (results : List Catalog) :
    all.paginate results = sortBy Catalog.id results := rfl

end CatalogQuery

inductive Operation where
  | upsert (catalog : Catalog)
  | query (query : CatalogQuery)
  | delete (node : NodeId)

inductive Outcome where
  | upserted (result : StoreResult Unit)
  | found (result : StoreResult (List Catalog))
  | deleted (result : StoreResult Bool)

def Operation.apply (map : CatalogMap) : Operation → CatalogMap
  | .upsert catalog => map.store Catalog.originNode catalog
  | .query _ => map
  | .delete node => map.remove node

def contentAfter (operations : List Operation) : CatalogMap :=
  operations.foldl Operation.apply fun _ => none

def Keyed (map : CatalogMap) : Prop :=
  ∀ node catalog, map node = some catalog → catalog.originNode = node

theorem Keyed.apply {map : CatalogMap} (keyed : Keyed map) (operation : Operation) :
    Keyed (operation.apply map) := by
  intro node catalog present
  cases operation with
  | query _ => exact keyed node catalog present
  | upsert stored =>
      rw [Operation.apply, KeyedMap.store_apply] at present
      split at present
      · next same =>
        cases present
        exact same.symm
      · exact keyed node catalog present
  | delete removed =>
      rw [Operation.apply, KeyedMap.remove_apply] at present
      split at present
      · cases present
      · exact keyed node catalog present

theorem keyed_contentAfter (operations : List Operation) : Keyed (contentAfter operations) := by
  induction operations using List.reverseRecOn with
  | nil =>
      intro node catalog present
      cases present
  | append_singleton operations operation inductionHypothesis =>
      rw [contentAfter, List.foldl_append]
      exact inductionHypothesis.apply operation

def DistinctIds (map : CatalogMap) : Prop :=
  ∀ first second catalog other, map first = some catalog → map second = some other →
    catalog.id = other.id → first = second

theorem DistinctIds.nodup {map : CatalogMap} (distinct : DistinctIds map)
    {listed : List Catalog} (enumerates : Enumerates Catalog.originNode map listed) :
    (listed.map Catalog.id).Nodup := by
  refine List.Nodup.map_on ?_ enumerates.nodup
  intro catalog inListed other otherInListed sameId
  have stored := enumerates.stored catalog inListed
  have otherStored := enumerates.stored other otherInListed
  have sameNode := distinct _ _ catalog other stored otherStored sameId
  rw [sameNode, otherStored] at stored
  exact (Option.some.inj stored).symm

theorem DistinctIds.of_nodup {map : CatalogMap} {listed : List Catalog}
    (enumerates : Enumerates Catalog.originNode map listed)
    (distinct : (listed.map Catalog.id).Nodup) : DistinctIds map := by
  intro first second catalog other stored otherStored sameId
  obtain ⟨inListed, node⟩ := enumerates.complete first catalog stored
  obtain ⟨otherInListed, otherNode⟩ := enumerates.complete second other otherStored
  rw [← node, ← otherNode, List.inj_on_of_nodup_map distinct inListed otherInListed sameId]

/-- The answers a call may give on a store holding `map`.  A query for one node
returns its entry; a query without a node returns a page of all entries,
ordered by catalog id. -/
def Answers (map : CatalogMap) : Operation → Outcome → Prop
  | .upsert _, outcome => outcome = .upserted (.ok ())
  | .delete node, outcome => outcome = .deleted (.ok (map node).isSome)
  | .query ⟨some node, offset, limit⟩, outcome =>
      outcome = .found (.ok (page offset limit (map node).toList))
  | .query ⟨none, offset, limit⟩, outcome =>
      ∃ listed, Enumerates Catalog.originNode map listed ∧
        listed.Pairwise (fun first second => first.id ≤ second.id) ∧
        outcome = .found (.ok (page offset limit listed))

theorem answers_query_all {map : CatalogMap} {results : List Catalog}
    (enumerates : Enumerates Catalog.originNode map results) (offset : Nat)
    (limit : Option Nat) :
    Answers map (.query ⟨none, offset, limit⟩)
      (.found (.ok ((CatalogQuery.mk none offset limit).paginate results))) :=
  ⟨sortBy Catalog.id results,
    enumerates.of_perm (sortBy_perm Catalog.id results).symm,
    sortBy_ordered Catalog.id results, rfl⟩

theorem answers_query_node (map : CatalogMap) (node : NodeId) (offset : Nat)
    (limit : Option Nat) :
    Answers map (.query ⟨some node, offset, limit⟩)
      (.found (.ok ((CatalogQuery.mk (some node) offset limit).paginate (map node).toList))) := by
  cases stored : map node <;> simp [Answers, CatalogQuery.paginate, stored]

theorem Answers.found {map : CatalogMap} {asked : CatalogQuery}
    {result : StoreResult (List Catalog)} (answers : Answers map (.query asked) (.found result)) :
    ∃ catalogs, result = .ok catalogs := by
  rcases asked with ⟨originNode, offset, limit⟩
  cases originNode with
  | some node =>
      cases answers
      exact ⟨_, rfl⟩
  | none =>
      obtain ⟨listed, _, _, same⟩ := answers
      cases same
      exact ⟨_, rfl⟩

theorem Answers.unique {map : CatalogMap} (distinct : DistinctIds map) {operation : Operation}
    {first second : Outcome} (firstAnswers : Answers map operation first)
    (secondAnswers : Answers map operation second) : first = second := by
  cases operation with
  | upsert _ => exact Eq.trans firstAnswers (Eq.symm secondAnswers)
  | delete _ => exact Eq.trans firstAnswers (Eq.symm secondAnswers)
  | query query =>
      rcases query with ⟨originNode, offset, limit⟩
      cases originNode with
      | some node => exact Eq.trans firstAnswers (Eq.symm secondAnswers)
      | none =>
          obtain ⟨listed, enumerates, ordered, rfl⟩ := firstAnswers
          obtain ⟨others, otherEnumerates, otherOrdered, rfl⟩ := secondAnswers
          have ids := distinct.nodup enumerates
          have same : listed = others := by
            refine List.Perm.eq_of_pairwise ?_ ordered otherOrdered
              (enumerates.perm otherEnumerates)
            intro catalog other inListed inOthers below above
            exact List.inj_on_of_nodup_map ids inListed
              ((enumerates.perm otherEnumerates).mem_iff.mpr inOthers) (le_antisymm below above)
          rw [same]

/-- A backend at rest, as its readers see it: what it holds and how it answers queries. -/
structure CacheView where
  content : CatalogMap
  query : CatalogQuery → StoreResult (List Catalog)
  answers : ∀ asked catalogs, query asked = .ok catalogs →
    Answers content (.query asked) (.found (.ok catalogs))

def CacheView.enumerating {content : CatalogMap} {records : List Catalog}
    (enumerates : Enumerates Catalog.originNode content records) : CacheView where
  content := content
  query asked := .ok (asked.paginate (match asked.originNode with
    | none => records
    | some node => (content node).toList))
  answers asked catalogs found := by
    rcases asked with ⟨originNode, offset, limit⟩
    cases found
    cases originNode with
    | none => exact answers_query_all enumerates offset limit
    | some node => exact answers_query_node content node offset limit

/-- What a query for everything finds: each node's entry once, ordered by catalog id. -/
theorem CacheView.listing (cache : CacheView) {catalogs : List Catalog}
    (found : cache.query .all = .ok catalogs) :
    Enumerates Catalog.originNode cache.content catalogs ∧
      catalogs.Pairwise fun first second => first.id ≤ second.id := by
  obtain ⟨listed, enumerates, ordered, same⟩ := cache.answers .all catalogs found
  cases same
  exact ⟨enumerates, ordered⟩

theorem CacheView.listing_unique {first second : CacheView}
    (same : first.content = second.content) (distinct : DistinctIds first.content)
    {catalogs others : List Catalog} (found : first.query .all = .ok catalogs)
    (otherFound : second.query .all = .ok others) : catalogs = others := by
  have answered := first.answers .all catalogs found
  have otherAnswered := second.answers .all others otherFound
  rw [← same] at otherAnswered
  cases answered.unique distinct otherAnswered
  rfl

end FederatedCatalog.Store
