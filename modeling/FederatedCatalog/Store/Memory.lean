import FederatedCatalog.Store.Cache
import Mathlib.Data.List.AList
import Mathlib.Data.List.Induction

/-!
# The in-memory backend

`InMemoryCatalogCache` keeps a `HashMap` behind a reader-writer lock, so each
call is one step.  The iteration order of the map is the environment's choice.
-/

namespace FederatedCatalog.Store

open Foundation FederatedCatalog.Core

/-- `HashMap<NodeId, Catalog>`. -/
abbrev CatalogHashMap := AList fun _ : NodeId => Catalog

/-- An iteration order of hash maps. -/
structure MapOrder where
  values : CatalogHashMap → List Catalog
  values_perm : ∀ graphs, (values graphs).Perm (graphs.entries.map Sigma.snd)

/-- The order in which the entries are kept. -/
def MapOrder.entries : MapOrder := ⟨fun graphs => graphs.entries.map Sigma.snd, fun _ => .refl _⟩

structure InMemoryCatalogCache where
  graphs : CatalogHashMap

namespace InMemoryCatalogCache

def new : InMemoryCatalogCache := ⟨∅⟩

def upsert (cache : InMemoryCatalogCache) (catalog : Catalog) :
    StoreResult Unit × InMemoryCatalogCache :=
  (.ok (), ⟨cache.graphs.insert catalog.originNode catalog⟩)

def query (order : MapOrder) (cache : InMemoryCatalogCache) (query : CatalogQuery) :
    StoreResult (List Catalog) :=
  let results := (order.values cache.graphs).filter fun catalog =>
    match query.originNode with
    | some node => decide (catalog.originNode = node)
    | none => true
  .ok (query.paginate results)

def delete (cache : InMemoryCatalogCache) (node : NodeId) :
    StoreResult Bool × InMemoryCatalogCache :=
  (.ok (cache.graphs.lookup node).isSome, ⟨cache.graphs.erase node⟩)

def perform (order : MapOrder) (cache : InMemoryCatalogCache) :
    Operation → Outcome × InMemoryCatalogCache
  | .upsert catalog => ((cache.upsert catalog).1 |> .upserted, (cache.upsert catalog).2)
  | .query query => (.found (cache.query order query), cache)
  | .delete node => ((cache.delete node).1 |> .deleted, (cache.delete node).2)

def content (cache : InMemoryCatalogCache) : CatalogMap := fun node => cache.graphs.lookup node

def WellKeyed (cache : InMemoryCatalogCache) : Prop := Keyed cache.content

theorem content_perform (order : MapOrder) (cache : InMemoryCatalogCache)
    (operation : Operation) :
    (cache.perform order operation).2.content = operation.apply cache.content := by
  funext node
  cases operation with
  | query _ => rfl
  | upsert catalog =>
      change (cache.graphs.insert catalog.originNode catalog).lookup node =
        KeyedMap.store Catalog.originNode cache.content catalog node
      rw [KeyedMap.store_apply]
      split
      · next same =>
        rw [same]
        exact AList.lookup_insert cache.graphs
      · next different => exact AList.lookup_insert_ne different
  | delete removed =>
      change (cache.graphs.erase removed).lookup node = cache.content.remove removed node
      rw [KeyedMap.remove_apply]
      split
      · next same =>
        rw [same]
        exact AList.lookup_erase removed cache.graphs
      · next different => exact AList.lookup_erase_ne different

theorem enumerates_values (order : MapOrder) {cache : InMemoryCatalogCache}
    (keyed : cache.WellKeyed) :
    Enumerates Catalog.originNode cache.content (order.values cache.graphs) := by
  have present : ∀ entry ∈ cache.graphs.entries, cache.content entry.1 = some entry.2 := by
    intro entry membership
    exact AList.mem_lookup_iff.mpr membership
  have keys : (cache.graphs.entries.map Sigma.snd).map Catalog.originNode =
      cache.graphs.keys := by
    change _ = cache.graphs.entries.map Sigma.fst
    rw [List.map_map]
    exact List.map_congr_left fun entry membership =>
      keyed _ _ (present entry membership)
  refine Enumerates.of_perm ?_ (order.values_perm cache.graphs).symm
  refine ⟨keys ▸ cache.graphs.keys_nodup, ?_, ?_⟩
  · intro catalog membership
    rcases List.mem_map.mp membership with ⟨entry, listed, rfl⟩
    rw [keyed _ _ (present entry listed)]
    exact present entry listed
  · intro node catalog stored
    exact ⟨List.mem_map.mpr ⟨⟨node, catalog⟩, AList.mem_lookup_iff.mp stored, rfl⟩,
      keyed node catalog stored⟩

theorem perform_answers (order : MapOrder) {cache : InMemoryCatalogCache}
    (keyed : cache.WellKeyed) (operation : Operation) :
    Answers cache.content operation (cache.perform order operation).1 := by
  cases operation with
  | upsert _ => rfl
  | delete _ => rfl
  | query query =>
      have listed := enumerates_values order keyed
      rcases query with ⟨originNode, offset, limit⟩
      cases originNode with
      | none => simpa [perform, InMemoryCatalogCache.query] using answers_query_all listed offset limit
      | some node =>
          have entry := listed.filter_key node
          have answered := answers_query_node cache.content node offset limit
          rw [← entry] at answered
          exact answered

def holding (catalogs : List Catalog) : InMemoryCatalogCache :=
  catalogs.foldl (fun cache catalog => (cache.upsert catalog).2) new

theorem content_holding_append (catalogs : List Catalog) (catalog : Catalog) :
    (holding (catalogs ++ [catalog])).content =
      (holding catalogs).content.store Catalog.originNode catalog := by
  have last : holding (catalogs ++ [catalog]) = ((holding catalogs).upsert catalog).2 := by
    simp [holding]
  rw [last]
  exact (holding catalogs).content_perform .entries (.upsert catalog)

theorem mem_of_holding {catalogs : List Catalog} {node : NodeId} {catalog : Catalog}
    (stored : (holding catalogs).content node = some catalog) :
    catalog ∈ catalogs ∧ catalog.originNode = node := by
  induction catalogs using List.reverseRecOn with
  | nil => cases stored
  | append_singleton catalogs last inductionHypothesis =>
      rw [content_holding_append, KeyedMap.store_apply] at stored
      split at stored
      · next same =>
        cases stored
        exact ⟨by simp, same.symm⟩
      · obtain ⟨listed, own⟩ := inductionHypothesis stored
        exact ⟨List.mem_append_left _ listed, own⟩

theorem holding_wellKeyed (catalogs : List Catalog) : (holding catalogs).WellKeyed := by
  induction catalogs using List.reverseRecOn with
  | nil =>
      intro node catalog present
      cases present
  | append_singleton catalogs catalog inductionHypothesis =>
      unfold WellKeyed at inductionHypothesis ⊢
      rw [content_holding_append]
      exact inductionHypothesis.apply (.upsert catalog)

theorem enumerates_holding (catalog : Catalog) :
    Enumerates Catalog.originNode (holding [catalog]).content [catalog] := by
  have none : Enumerates Catalog.originNode (holding []).content ([] : List Catalog) :=
    Enumerates.nil_iff.mpr rfl
  have stored := none.store catalog
  rw [← content_holding_append] at stored
  exact stored

end InMemoryCatalogCache

end FederatedCatalog.Store
