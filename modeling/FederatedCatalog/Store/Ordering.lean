import FederatedCatalog.Store.Refinement

/-!
# Enumeration orders and pagination

Queries sort by catalog id, which the participants choose.  The answers are
independent of the order in which a backend enumerates, and pages fit
together, exactly when different nodes have different catalog ids.
-/

namespace FederatedCatalog.Store

open Foundation FederatedCatalog.Core Json

/-- A backend at rest that holds a map, with every order in which it may enumerate. -/
structure Backend (map : CatalogMap) where
  Choice : Type
  query : Choice → CatalogQuery → StoreResult (List Catalog)
  answers : ∀ choice asked, ∃ catalogs, query choice asked = .ok catalogs ∧
    Answers map (.query asked) (.found (.ok catalogs))
  enumerates : ∀ listed, Enumerates Catalog.originNode map listed →
    ∃ choice, ∀ offset limit,
      query choice ⟨none, offset, limit⟩ = .ok (page offset limit (sortBy Catalog.id listed))

/-- Any enumeration of a hash map may be its iteration order. -/
def MapOrder.listing {cache : InMemoryCatalogCache} (keyed : cache.WellKeyed)
    {listed : List Catalog} (lists : Enumerates Catalog.originNode cache.content listed) :
    MapOrder where
  values graphs := if graphs = cache.graphs then listed else graphs.entries.map Sigma.snd
  values_perm graphs := by
    split
    · next same =>
      rw [same]
      exact lists.perm (InMemoryCatalogCache.enumerates_values .entries keyed)
    · exact .refl _

def Backend.memory {cache : InMemoryCatalogCache} (keyed : cache.WellKeyed) :
    Backend cache.content where
  Choice := MapOrder
  query order asked := cache.query order asked
  answers order asked :=
    ⟨_, rfl, InMemoryCatalogCache.perform_answers order keyed (.query asked)⟩
  enumerates listed lists := by
    refine ⟨.listing keyed lists, ?_⟩
    intro offset limit
    simp [InMemoryCatalogCache.query, MapOrder.listing, CatalogQuery.paginate]

variable {support : OxigraphSupport} {map : CatalogMap} {store : GraphStore}

def graphName (support : OxigraphSupport) (catalog : Catalog) : NamedOrBlankNode :=
  .namedNode (iriOf support catalog.originNode)

theorem graphName_nodup {listed : List Catalog}
    (distinct : (listed.map Catalog.originNode).Nodup) :
    (listed.map (graphName support)).Nodup := by
  have injective : Function.Injective fun node => NamedOrBlankNode.namedNode
      (iriOf support node) := by
    intro first second same
    exact iriOf_injective support (NamedOrBlankNode.namedNode.inj same)
  have mapped := distinct.map injective
  rwa [List.map_map] at mapped

def StoreOrder.listing (represents : Represents support map store) {listed : List Catalog}
    (lists : Enumerates Catalog.originNode map listed) : StoreOrder where
  quads stored := stored
  quads_perm _ := .refl _
  graphs stored :=
    if stored = store.quads then listed.map (graphName support) else StoreOrder.plain.graphs stored
  graphs_nodup stored := by
    split
    · exact graphName_nodup lists.distinct
    · exact StoreOrder.plain.graphs_nodup stored
  graphs_complete stored := by
    intro quad membership
    split
    · next same =>
      rw [same] at membership
      obtain ⟨catalog, present, rfl⟩ := (represents.quads quad).mp membership
      exact List.mem_map.mpr ⟨catalog, (lists.complete _ catalog present).1, rfl⟩
    · exact StoreOrder.plain.graphs_complete stored quad membership

namespace OxigraphCatalogCache

theorem loadGraphs_listed (represents : Represents support map store) (orders : Nat → StoreOrder)
    {listed : List Catalog}
    (stored : ∀ catalog ∈ listed, map catalog.originNode = some catalog)
    (results : List Catalog) :
    ∃ later, ∀ {Result : Type} (next : StoreResult (List Catalog) → StoreProgram Result),
      ((loadGraphs support (listed.map (graphName support)) results).bind next).run
          StoreCall.perform (steady orders) store =
        (next (.ok (results ++ listed))).run StoreCall.perform (steady later) store := by
  induction listed generalizing orders results with
  | nil => exact ⟨orders, by simp [loadGraphs]⟩
  | cons catalog rest inductionHypothesis =>
      obtain ⟨entry, characterized, loads⟩ :=
        loadGraph_bind represents orders (iriOf support catalog.originNode)
      obtain rfl : entry = some catalog :=
        (characterized catalog).mpr ⟨stored catalog List.mem_cons_self, rfl⟩
      obtain ⟨later, runs⟩ := inductionHypothesis (fun index => orders (index + 1))
        (fun other membership => stored other (List.mem_cons_of_mem _ membership))
        (results ++ [catalog])
      refine ⟨later, ?_⟩
      intro Result next
      rw [List.map_cons, graphName, loadGraphs, Program.bind_assoc, loads]
      dsimp only
      rw [runs, List.append_assoc, List.singleton_append]

theorem query_listing (represents : Represents support map store) {listed : List Catalog}
    (lists : Enumerates Catalog.originNode map listed) (offset : Nat) (limit : Option Nat) :
    ((query support ⟨none, offset, limit⟩).run StoreCall.perform
        (steady fun _ => .listing represents lists) store).1 =
      .ok (page offset limit (sortBy Catalog.id listed)) := by
  obtain ⟨later, runs⟩ := loadGraphs_listed represents
    (fun _ => .listing represents lists) lists.stored []
  have names : (StoreOrder.listing represents lists).graphs store.quads =
      listed.map (graphName support) := by
    simp [StoreOrder.listing]
  rw [query, collect, Program.bind_call, Program.run_call]
  simp only [steady_apply, StoreCall.perform_choice, StoreCall.answer, names, orFail]
  exact congrArg Prod.fst
    (runs fun results => .done (results.map (CatalogQuery.mk none offset limit).paginate))

end OxigraphCatalogCache

def Backend.oxigraph (represents : Represents support map store) : Backend map where
  Choice := Nat → StoreOrder
  query orders asked :=
    ((OxigraphCatalogCache.query support asked).run StoreCall.perform (steady orders) store).1
  answers orders asked := by
    have answered := (OxigraphCatalogCache.perform_refines represents orders (.query asked)).1
    rw [OxigraphCatalogCache.perform, OxigraphCatalogCache.program,
      Program.run_bind_done] at answered
    obtain ⟨catalogs, found⟩ := answered.found
    rw [found] at answered
    exact ⟨catalogs, found, answered⟩
  enumerates listed lists :=
    ⟨fun _ => .listing represents lists,
      OxigraphCatalogCache.query_listing represents lists⟩

namespace Backend

/-- The same query finds the same, whatever the enumeration order. -/
def OrderIndependent (backend : Backend map) : Prop :=
  ∀ asked first second, backend.query first asked = backend.query second asked

def Matching (map : CatalogMap) : Option NodeId → List Catalog → Prop
  | none, found => Enumerates Catalog.originNode map found
  | some node, found => found = (map node).toList

/-- A reader who fetches pages of a size until one is empty has seen every matching catalog
exactly once, although each page is queried in an order of its own. -/
def PagesOnce (backend : Backend map) : Prop :=
  ∀ node size, 0 < size → ∀ (choices : Nat → backend.Choice) (pages : Nat → List Catalog) count,
    (∀ index, backend.query (choices index) ⟨node, index * size, some size⟩ =
      .ok (pages index)) →
    pages count = [] → Matching map node ((List.range count).flatMap pages)

/-- Every enumeration order gives the same answers and the same pages. -/
def Reproducible (backend : Backend map) : Prop :=
  backend.OrderIndependent ∧ backend.PagesOnce

variable (backend : Backend map)

theorem listing_exists [Nonempty backend.Choice] :
    ∃ listed, Enumerates Catalog.originNode map listed ∧
      listed.Pairwise fun first second => first.id ≤ second.id := by
  obtain ⟨choice⟩ := ‹Nonempty backend.Choice›
  obtain ⟨catalogs, _, listed, enumerates, ordered, _⟩ := backend.answers choice .all
  exact ⟨listed, enumerates, ordered⟩

theorem orderIndependent_of_distinct (distinct : DistinctIds map) : backend.OrderIndependent := by
  intro asked first second
  obtain ⟨catalogs, found, answers⟩ := backend.answers first asked
  obtain ⟨others, otherFound, otherAnswers⟩ := backend.answers second asked
  rw [found, otherFound]
  exact Outcome.found.inj (answers.unique distinct otherAnswers)

theorem pagesOnce_of_distinct (distinct : DistinctIds map) : backend.PagesOnce := by
  intro node size positive choices pages count fetched last
  have answered : ∀ index, Answers map (.query ⟨node, index * size, some size⟩)
      (.found (.ok (pages index))) := by
    intro index
    obtain ⟨catalogs, found, answers⟩ := backend.answers (choices index) _
    rw [fetched index] at found
    cases found
    exact answers
  have assembled : ∀ listed : List Catalog,
      (∀ index, pages index = page (index * size) (some size) listed) →
      (List.range count).flatMap pages = listed := by
    intro listed same
    have whole := flatMap_pages listed size count
    rw [← List.take_of_length_le (length_le_of_page_eq_nil positive ((same count).symm.trans last)),
      ← whole]
    exact List.flatMap_congr fun index _ => same index
  cases node with
  | some node =>
      apply assembled _
      intro index
      exact Except.ok.inj (Outcome.found.inj (answered index))
  | none =>
      obtain ⟨listed, enumerates, ordered, _⟩ := answered 0
      have same : ∀ index, pages index = page (index * size) (some size) listed := by
        intro index
        have expected : Answers map (.query ⟨none, index * size, some size⟩)
            (.found (.ok (page (index * size) (some size) listed))) :=
          ⟨listed, enumerates, ordered, rfl⟩
        exact Except.ok.inj (Outcome.found.inj ((answered index).unique distinct expected))
      rw [Matching, assembled listed same]
      exact enumerates

theorem distinct_of_orderIndependent [Nonempty backend.Choice]
    (independent : backend.OrderIndependent) : DistinctIds map := by
  intro firstNode secondNode first second stored otherStored sameId
  by_contra different
  obtain ⟨listed, enumerates, _⟩ := backend.listing_exists
  obtain ⟨inListed, firstKey⟩ := enumerates.complete _ first stored
  obtain ⟨otherInListed, secondKey⟩ := enumerates.complete _ second otherStored
  have apart : second ≠ first := by
    rintro rfl
    exact different (firstKey.symm.trans secondKey)
  -- both orders of the two catalogs, before all others
  have front : listed.Perm (first :: second :: (listed.erase first).erase second) := by
    refine (List.perm_cons_erase inListed).trans (List.Perm.cons _ ?_)
    exact List.perm_cons_erase ((List.mem_erase_of_ne apart).mpr otherInListed)
  have back := front.trans (List.Perm.swap second first _)
  obtain ⟨choice, asks⟩ := backend.enumerates _ (enumerates.of_perm front)
  obtain ⟨otherChoice, otherAsks⟩ := backend.enumerates _ (enumerates.of_perm back)
  have same := independent .all choice otherChoice
  have asked := asks 0 none
  have otherAsked := otherAsks 0 none
  rw [page_whole] at asked otherAsked
  have sorted := Except.ok.inj (asked.symm.trans (same.trans otherAsked))
  have nodup : (sortBy Catalog.id (first :: second :: (listed.erase first).erase second)).Nodup :=
    (sortBy_perm _ _).nodup_iff.mpr (front.nodup_iff.mp enumerates.nodup)
  apply not_both_orders nodup (pair_sublist_sortBy sameId.le (by simp))
  rw [sorted]
  exact pair_sublist_sortBy sameId.ge (by simp)

theorem reproducible_iff [Nonempty backend.Choice] :
    backend.Reproducible ↔ DistinctIds map := by
  constructor
  · intro reproducible
    exact backend.distinct_of_orderIndependent reproducible.1
  · intro distinct
    exact ⟨backend.orderIndependent_of_distinct distinct, backend.pagesOnce_of_distinct distinct⟩

end Backend

theorem memoryAfter_keyed (turns : List Turn) : (memoryAfter turns).WellKeyed := by
  rw [InMemoryCatalogCache.WellKeyed, content_memoryAfter]
  exact keyed_contentAfter _

/-- After any calls, both backends hide their enumeration order exactly when different nodes
have different catalog ids. -/
theorem enumeration_order_is_hidden_iff (support : OxigraphSupport) (turns : List Turn) :
    ((Backend.memory (memoryAfter_keyed turns)).Reproducible ∧
      (Backend.oxigraph (represents_oxigraphAfter support turns)).Reproducible) ↔
        DistinctIds (contentAfter (turns.map Turn.operation)) := by
  have someOrder : Nonempty (Backend.memory (memoryAfter_keyed turns)).Choice :=
    ⟨MapOrder.entries⟩
  have someOrders : Nonempty (Backend.oxigraph (represents_oxigraphAfter support turns)).Choice :=
    ⟨fun _ => StoreOrder.plain⟩
  rw [Backend.reproducible_iff, Backend.reproducible_iff, content_memoryAfter, and_self]

def MapOrder.reversed : MapOrder where
  values graphs := (graphs.entries.map Sigma.snd).reverse
  values_perm _ := List.reverse_perm _

def sharedIds : InMemoryCatalogCache :=
  .holding [Catalog.new "shared" ⟨"north"⟩, Catalog.new "shared" ⟨"south"⟩]

/-- The order of two catalogs of one id is the iteration order, and two pages of one catalog
each show `south` twice and `north` never. -/
theorem shared_ids_break_pages :
    sharedIds.query .entries .all =
        .ok [Catalog.new "shared" ⟨"south"⟩, Catalog.new "shared" ⟨"north"⟩] ∧
      sharedIds.query .reversed .all =
        .ok [Catalog.new "shared" ⟨"north"⟩, Catalog.new "shared" ⟨"south"⟩] ∧
      sharedIds.query .entries ⟨none, 0, some 1⟩ = .ok [Catalog.new "shared" ⟨"south"⟩] ∧
      sharedIds.query .reversed ⟨none, 1, some 1⟩ = .ok [Catalog.new "shared" ⟨"south"⟩] ∧
      sharedIds.query .entries ⟨none, 2, some 1⟩ = .ok [] := by
  decide +kernel

end FederatedCatalog.Store
