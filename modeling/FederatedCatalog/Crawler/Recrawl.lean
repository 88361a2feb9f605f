import FederatedCatalog.Crawler.Config
import Mathlib.Order.Lattice

/-!
# Pagination across crawl cycles

Catalogs are listed in the order of their ids, and an unchanged participant
may mint a new id for every response.  The nodes keep their order, and pages
read between visits fit together, in every run whose new ids keep each node's
rank among the cached ids.
-/

namespace FederatedCatalog.Crawler

open Foundation Json FederatedCatalog.Core Dcp Store

/-! ## The order of the nodes -/

/-- Where both nodes have an entry, the first one's id is not above the second one's. -/
def Precedes (content : CatalogMap) (first second : NodeId) : Prop :=
  ∀ catalog other, content first = some catalog → content second = some other →
    catalog.id ≤ other.id

theorem precedes_of_left {content : CatalogMap} {first second : NodeId} {catalog : Catalog}
    (stored : content first = some catalog) :
    Precedes content first second ↔ ∀ other, content second = some other →
      catalog.id ≤ other.id := by
  constructor
  · intro below other otherStored
    exact below catalog other stored otherStored
  · intro below one other oneStored otherStored
    rw [stored] at oneStored
    cases oneStored
    exact below other otherStored

theorem precedes_of_right {content : CatalogMap} {first second : NodeId} {other : Catalog}
    (stored : content second = some other) :
    Precedes content first second ↔ ∀ catalog, content first = some catalog →
      catalog.id ≤ other.id := by
  simp [Precedes, stored]

structure NodeOrder (content : CatalogMap) (nodes : List NodeId) : Prop where
  nodup : nodes.Nodup
  cached : ∀ node, node ∈ nodes ↔ (content node).isSome = true
  ordered : nodes.Pairwise (Precedes content)

theorem NodeOrder.of_listing {content : CatalogMap} {listed : List Catalog}
    (lists : Enumerates Catalog.originNode content listed)
    (ordered : listed.Pairwise fun first second => first.id ≤ second.id) :
    NodeOrder content (listed.map Catalog.originNode) where
  nodup := lists.distinct
  cached := by
    intro node
    rw [Option.isSome_iff_exists]
    constructor
    · intro membership
      obtain ⟨catalog, inListed, rfl⟩ := List.mem_map.mp membership
      exact ⟨catalog, lists.stored catalog inListed⟩
    · rintro ⟨catalog, stored⟩
      obtain ⟨inListed, node⟩ := lists.complete _ catalog stored
      exact List.mem_map.mpr ⟨catalog, inListed, node⟩
  ordered := by
    rw [List.pairwise_map]
    apply ordered.imp_of_mem
    intro first second inListed otherInListed below catalog other stored otherStored
    rw [lists.stored first inListed] at stored
    rw [lists.stored second otherInListed] at otherStored
    cases stored
    cases otherStored
    exact below

theorem NodeOrder.unique {content : CatalogMap} (distinct : DistinctIds content)
    {nodes others : List NodeId} (order : NodeOrder content nodes)
    (otherOrder : NodeOrder content others) : nodes = others := by
  have same : nodes.Perm others := by
    apply (List.perm_ext_iff_of_nodup order.nodup otherOrder.nodup).mpr
    intro node
    rw [order.cached, otherOrder.cached]
  refine List.Perm.eq_of_pairwise ?_ order.ordered otherOrder.ordered same
  intro first second inNodes inOthers below above
  obtain ⟨catalog, stored⟩ := Option.isSome_iff_exists.mp ((order.cached first).mp inNodes)
  obtain ⟨other, otherStored⟩ :=
    Option.isSome_iff_exists.mp ((otherOrder.cached second).mp inOthers)
  exact distinct first second catalog other stored otherStored
    (le_antisymm (below _ _ stored otherStored) (above _ _ otherStored stored))

/-- The new id of a node's catalog stands to the other cached ids as the old one did. -/
def KeepsRank (content : CatalogMap) (catalog : Catalog) : Prop :=
  ∀ old, content catalog.originNode = some old → ∀ node other, node ≠ catalog.originNode →
    content node = some other →
      other.id ≠ catalog.id ∧ (other.id < catalog.id ↔ other.id < old.id)

structure SameOrder (before now : CatalogMap) : Prop where
  distinct : DistinctIds now
  cached : ∀ node, (now node).isSome = (before node).isSome
  precedes : ∀ first second, Precedes now first second ↔ Precedes before first second

theorem SameOrder.refl {content : CatalogMap} (distinct : DistinctIds content) :
    SameOrder content content :=
  ⟨distinct, fun _ => rfl, fun _ _ => Iff.rfl⟩

theorem SameOrder.nodeOrder {before now : CatalogMap} (same : SameOrder before now)
    {nodes : List NodeId} (order : NodeOrder now nodes) : NodeOrder before nodes where
  nodup := order.nodup
  cached node := by rw [order.cached, same.cached]
  ordered := order.ordered.imp fun {_ _} below => (same.precedes _ _).mp below

section Replace

variable {content : CatalogMap} {catalog old : Catalog}

theorem distinct_store (distinct : DistinctIds content) (keeps : KeepsRank content catalog)
    (present : content catalog.originNode = some old) :
    DistinctIds (content.store Catalog.originNode catalog) := by
  intro first second one other stored otherStored sameId
  rw [KeyedMap.store_apply] at stored otherStored
  by_cases own : first = catalog.originNode
  · by_cases otherOwn : second = catalog.originNode
    · rw [own, otherOwn]
    · rw [if_pos own] at stored
      rw [if_neg otherOwn] at otherStored
      cases stored
      exact absurd sameId.symm (keeps old present second other otherOwn otherStored).1
  · rw [if_neg own] at stored
    by_cases otherOwn : second = catalog.originNode
    · rw [if_pos otherOwn] at otherStored
      cases otherStored
      exact absurd sameId (keeps old present first one own stored).1
    · rw [if_neg otherOwn] at otherStored
      exact distinct first second one other stored otherStored sameId

theorem precedes_store (distinct : DistinctIds content) (keeps : KeepsRank content catalog)
    (present : content catalog.originNode = some old) (first second : NodeId) :
    Precedes (content.store Catalog.originNode catalog) first second ↔
      Precedes content first second := by
  by_cases own : first = catalog.originNode
  · subst own
    by_cases otherOwn : second = catalog.originNode
    · subst otherOwn
      simp [Precedes, present]
    · rw [precedes_of_left (KeyedMap.store_same ..), precedes_of_left present,
        KeyedMap.store_apply, if_neg otherOwn]
      refine forall_congr' fun other => imp_congr_right fun otherStored => ?_
      have rank := (keeps old present second other otherOwn otherStored).2
      rw [← not_lt, ← not_lt, rank]
  · by_cases otherOwn : second = catalog.originNode
    · subst otherOwn
      rw [precedes_of_right (KeyedMap.store_same ..), precedes_of_right present,
        KeyedMap.store_apply, if_neg own]
      refine forall_congr' fun one => imp_congr_right fun stored => ?_
      obtain ⟨apart, rank⟩ := keeps old present first one own stored
      have apartBefore : one.id ≠ old.id := fun same =>
        own (distinct first _ one old stored present same)
      rw [apart.le_iff_lt, apartBefore.le_iff_lt, rank]
    · simp only [Precedes, KeyedMap.store_apply, if_neg own, if_neg otherOwn]

theorem SameOrder.store {before : CatalogMap} (same : SameOrder before content)
    (keeps : KeepsRank content catalog) (present : content catalog.originNode = some old) :
    SameOrder before (content.store Catalog.originNode catalog) where
  distinct := distinct_store same.distinct keeps present
  cached node := by
    rw [← same.cached, KeyedMap.store_apply]
    split
    · next own => rw [own, present]; rfl
    · rfl
  precedes first second := by
    rw [precedes_store same.distinct keeps present, same.precedes]

end Replace

variable {platform : Platform} {cache : AtomicCache}

theorem crawlFrom_keeps (holder : Option (HolderIdentity platform))
    (participants : List ParticipantEntry) (encounters : Nat → Encounter cache)
    (summary : CrawlSummary) {state : cache.State} {node : NodeId}
    (present : (cache.content state node).isSome = true) :
    (cache.content (crawlFrom holder participants encounters summary state).2 node).isSome =
      true := by
  rw [content_crawlFrom, Option.isSome_or, present, Bool.or_true]

theorem crawlFrom_populates {holder : Option (HolderIdentity platform)}
    (upserts : ∀ choice state catalog, (cache.upsert choice state catalog).1 = .ok ())
    {participants : List ParticipantEntry} {encounters : Nat → Encounter cache}
    {index : Nat} {participant : ParticipantEntry} {catalog : Catalog}
    (visited : participants[index]? = some participant)
    (fetched : crawlOne (encounters index).world participant holder = .ok catalog)
    (summary : CrawlSummary) (state : cache.State) :
    (cache.content (crawlFrom holder participants encounters summary state).2
      ⟨participant.id⟩).isSome = true := by
  induction participants generalizing encounters index summary state with
  | nil => simp at visited
  | cons next rest inductionHypothesis =>
      rw [crawlFrom_cons]
      cases index with
      | zero =>
          cases visited
          have upserted := upserts (encounters 0).choice state catalog
          apply crawlFrom_keeps
          rw [Visit.make_cached holder participant (encounters 0) state fetched upserted,
            cache.upsert_ok _ _ _ upserted, ← crawlOne_originNode fetched, KeyedMap.store_same]
          rfl
      | succ index =>
          have later : rest[index]? = some participant := visited
          generalize crawled : (fun index => encounters (index + 1)) = laterEncounters
          have laterFetched : crawlOne (laterEncounters index).world participant holder =
              .ok catalog := by
            rw [← crawled]
            exact fetched
          exact inductionHypothesis later laterFetched _ _

def SameButId (first second : Value) : Prop :=
  ∀ key, key ≠ "@id" → first.get key = second.get key

/-- What a participant always does: fail, or answer with one document up to its id. -/
def Repeats (holder : Option (HolderIdentity platform)) (reply : Option Value)
    (participant : ParticipantEntry) (world : CrawlWorld) : Prop :=
  match reply with
  | none => ∃ error, crawlOne world participant holder = .error error
  | some value => ∃ body, SameButId value body ∧
      crawlOne world participant holder =
        .ok (parseCatalogResponse body participant world.freshId)

structure Recrawling (holder : Option (HolderIdentity platform)) (cache : AtomicCache)
    (participants : List ParticipantEntry) where
  upserts : ∀ choice state catalog, (cache.upsert choice state catalog).1 = .ok ()
  replies : ParticipantEntry → Option Value
  initial : cache.State
  first : Nat → Encounter cache
  /-- Who is visited next, and in what surroundings. -/
  turns : Nat → ParticipantEntry × Encounter cache
  firstRepeats : ∀ index participant, participants[index]? = some participant →
    Repeats holder (replies participant) participant (first index).world
  configured : ∀ turn, (turns turn).1 ∈ participants
  repeats : ∀ turn, Repeats holder (replies (turns turn).1) (turns turn).1 (turns turn).2.world

namespace Recrawling

variable {holder : Option (HolderIdentity platform)} {participants : List ParticipantEntry}
  (run : Recrawling holder cache participants)

def state : Nat → cache.State
  | 0 => (crawlOnce holder participants run.first run.initial).2
  | turn + 1 => (Visit.make holder (run.turns turn).1 (run.turns turn).2 (state turn)).2

def content (turn : Nat) : CatalogMap := cache.content (run.state turn)

/-- The first cycle leaves distinct ids, and every further catalog keeps its node's rank. -/
structure Steady : Prop where
  distinct : DistinctIds (run.content 0)
  keeps : ∀ turn catalog, crawlOne (run.turns turn).2.world (run.turns turn).1 holder =
    .ok catalog → KeepsRank (run.content turn) catalog

structure OrderKept : Prop where
  order : ∀ turn other listed others,
    Answers (run.content turn) (.query .all) (.found (.ok listed)) →
    Answers (run.content other) (.query .all) (.found (.ok others)) →
      listed.map Catalog.originNode = others.map Catalog.originNode
  /-- Pages read at any times, up to the first empty one, show every cached node once. -/
  pages : ∀ (times : Nat → Nat) (size : Nat) (pages : Nat → List Catalog) (count : Nat),
    0 < size →
    (∀ index, Answers (run.content (times index)) (.query ⟨none, index * size, some size⟩)
      (.found (.ok (pages index)))) →
    pages count = [] →
    (((List.range count).flatMap pages).map Catalog.originNode).Nodup ∧
      ∀ turn node, (run.content turn node).isSome = true ↔
        node ∈ ((List.range count).flatMap pages).map Catalog.originNode

theorem populated {participant : ParticipantEntry} (listed : participant ∈ participants)
    {value : Value} (answers : run.replies participant = some value) :
    (run.content 0 ⟨participant.id⟩).isSome = true := by
  obtain ⟨index, _, named⟩ := List.mem_iff_getElem.mp listed
  have at_ : participants[index]? = some participant := List.getElem?_eq_some_iff.mpr ⟨_, named⟩
  have repeats := run.firstRepeats index participant at_
  rw [answers] at repeats
  obtain ⟨body, _, fetched⟩ := repeats
  exact crawlFrom_populates run.upserts at_ fetched .default run.initial

/-- The step lemma: a visit that keeps its node's rank keeps the order of all nodes. -/
theorem step_sameOrder {before : CatalogMap} {turn : Nat}
    (populated : ∀ catalog, crawlOne (run.turns turn).2.world (run.turns turn).1 holder =
      .ok catalog → (before catalog.originNode).isSome = true)
    (keeps : ∀ catalog, crawlOne (run.turns turn).2.world (run.turns turn).1 holder =
      .ok catalog → KeepsRank (run.content turn) catalog)
    (same : SameOrder before (run.content turn)) : SameOrder before (run.content (turn + 1)) := by
  rcases Visit.make_spec holder (run.turns turn).1 (run.turns turn).2 (run.state turn) with
    ⟨catalog, fetched, _, stored⟩ | ⟨_, _, unchanged⟩
  · have present := populated catalog fetched
    rw [← same.cached] at present
    obtain ⟨old, present⟩ := Option.isSome_iff_exists.mp present
    have next := same.store (keeps catalog fetched) present
    rwa [content, ← stored] at next
  · rw [content, ← unchanged] at same
    exact same

theorem fetched_is_cached {turn : Nat} {catalog : Catalog}
    (fetched : crawlOne (run.turns turn).2.world (run.turns turn).1 holder = .ok catalog) :
    (run.content 0 catalog.originNode).isSome = true := by
  rw [crawlOne_originNode fetched]
  have repeats := run.repeats turn
  cases reply : run.replies (run.turns turn).1 with
  | none =>
      rw [reply] at repeats
      obtain ⟨error, failed⟩ := repeats
      cases fetched.symm.trans failed
  | some value => exact run.populated (run.configured turn) reply

theorem sameOrder (steady : run.Steady) (turn : Nat) :
    SameOrder (run.content 0) (run.content turn) := by
  induction turn with
  | zero => exact .refl steady.distinct
  | succ turn inductionHypothesis =>
      exact run.step_sameOrder (fun _ => run.fetched_is_cached) (steady.keeps turn)
        inductionHypothesis

theorem listed_order (steady : run.Steady) {turn : Nat} {listed : List Catalog}
    (lists : Enumerates Catalog.originNode (run.content turn) listed)
    (ordered : listed.Pairwise fun first second => first.id ≤ second.id) :
    NodeOrder (run.content 0) (listed.map Catalog.originNode) :=
  (run.sameOrder steady turn).nodeOrder (.of_listing lists ordered)

/-- Where re-crawled catalogs keep their rank, pages fit together across the visits. -/
theorem order_kept (steady : run.Steady) : run.OrderKept where
  order := by
    rintro turn other listed others ⟨_, lists, ordered, found⟩ ⟨_, otherLists, otherOrdered, otherFound⟩
    cases found
    cases otherFound
    exact (run.listed_order steady lists ordered).unique steady.distinct
      (run.listed_order steady otherLists otherOrdered)
  pages := by
    intro times size pages count positive answered last
    choose listed lists ordered found using answered
    have read : ∀ index, pages index = page (index * size) (some size) (listed index) :=
      fun index => Except.ok.inj (Outcome.found.inj (found index))
    have nodes := fun index => run.listed_order steady (lists index) (ordered index)
    -- all pages are cut from one list of nodes
    have cut : ∀ index, (pages index).map Catalog.originNode =
        page (index * size) (some size) ((listed 0).map Catalog.originNode) := by
      intro index
      rw [read, page_map, (nodes index).unique steady.distinct (nodes 0)]
    have short : ((listed 0).map Catalog.originNode).length ≤ count * size := by
      apply length_le_of_page_eq_nil positive
      rw [← cut, last, List.map_nil]
    have whole : ((List.range count).flatMap pages).map Catalog.originNode =
        (listed 0).map Catalog.originNode := by
      rw [List.map_flatMap, List.flatMap_congr fun index _ => cut index, flatMap_pages,
        List.take_of_length_le short]
    rw [whole]
    refine ⟨(nodes 0).nodup, ?_⟩
    intro turn node
    rw [(run.sameOrder steady turn).cached, (nodes 0).cached]

end Recrawling

/-! ## Two participants -/

def emptyCatalogAs (id : String) : CrawlWorld :=
  .answering .reference fun _ => .object [("@id", .string id)]

theorem emptyCatalogAs_crawled (id : String) {participant : ParticipantEntry}
    (opened : participant.requiresDcp = false) :
    crawlOne (emptyCatalogAs id) participant (none : Option (HolderIdentity .reference)) =
      .ok (Catalog.new id ⟨participant.id⟩) := by
  unfold emptyCatalogAs
  rw [crawlOne_answering none opened (by simp)]
  rfl

theorem emptyCatalogAs_repeats (id : String) {participant : ParticipantEntry}
    (opened : participant.requiresDcp = false) :
    Repeats (none : Option (HolderIdentity .reference)) (some (.object [])) participant
      (emptyCatalogAs id) := by
  refine ⟨.object [("@id", .string id)], ?_, emptyCatalogAs_crawled id opened⟩
  intro key other
  have different : (key == "@id") = false := by simpa using other
  simp [Value.get, List.lookup_cons, different]

/-- `north` comes as `1` and `south` as `2`; then `north` is visited again and again. -/
def recrawlingNorth (id : String) :
    Recrawling (none : Option (HolderIdentity .reference)) .memory
      [participantAt "north", participantAt "south"] where
  upserts _ _ _ := rfl
  replies _ := some (.object [])
  initial := AtomicCache.memory.holding []
  first
    | 0 => (emptyCatalogAs "1").inMemory
    | _ + 1 => (emptyCatalogAs "2").inMemory
  turns _ := (participantAt "north", (emptyCatalogAs id).inMemory)
  firstRepeats index participant visited := by
    rcases index with _ | _ | index
    · cases visited
      exact emptyCatalogAs_repeats "1" rfl
    · cases visited
      exact emptyCatalogAs_repeats "2" rfl
    · cases visited
  configured _ := List.mem_cons_self
  repeats _ := emptyCatalogAs_repeats id rfl

def northAs (id : String) : Catalog := Catalog.new id ⟨"north"⟩

def southSecond : Catalog := Catalog.new "2" ⟨"south"⟩

theorem recrawlingNorth_state (id : String) (turn : Nat) :
    (recrawlingNorth id).state turn = AtomicCache.memory.holding
      ([northAs "1", southSecond] ++ List.replicate turn (northAs id)) := by
  induction turn with
  | zero =>
      have north : crawlOne (emptyCatalogAs "1") (participantAt "north")
          (none : Option (HolderIdentity .reference)) = .ok (northAs "1") :=
        emptyCatalogAs_crawled "1" rfl
      have south : crawlOne (emptyCatalogAs "2") (participantAt "south")
          (none : Option (HolderIdentity .reference)) = .ok southSecond :=
        emptyCatalogAs_crawled "2" rfl
      have northVisited := Visit.make_inMemory (none : Option (HolderIdentity .reference))
        (participantAt "north") north []
      have southVisited := Visit.make_inMemory (none : Option (HolderIdentity .reference))
        (participantAt "south") south ([] ++ [northAs "1"])
      rw [Recrawling.state, recrawlingNorth, crawlOnce, crawlFrom_cons, crawlFrom_cons]
      dsimp only
      rw [northVisited]
      dsimp only
      rw [southVisited]
      rfl
  | succ turn inductionHypothesis =>
      have again : crawlOne (emptyCatalogAs id) (participantAt "north")
          (none : Option (HolderIdentity .reference)) = .ok (northAs id) :=
        emptyCatalogAs_crawled id rfl
      rw [Recrawling.state, inductionHypothesis, recrawlingNorth, Visit.make_inMemory _ _ again,
        List.replicate_succ', List.append_assoc]

theorem recrawlingNorth_answers (id : String) (turn : Nat) {listed : List Catalog}
    (found : (InMemoryCatalogCache.holding
      ([northAs "1", southSecond] ++ List.replicate turn (northAs id))).query .entries .all =
        .ok listed) :
    Answers ((recrawlingNorth id).content turn) (.query .all) (.found (.ok listed)) := by
  rw [Recrawling.content, recrawlingNorth_state]
  exact (CacheView.holding _).answers .all listed found

theorem recrawlingNorth_entries (id : String) (turn : Nat) {node : NodeId} {catalog : Catalog}
    (stored : (recrawlingNorth id).content turn node = some catalog) :
    catalog.originNode = node ∧
      (catalog = southSecond ∨ catalog = northAs "1" ∨ catalog = northAs id) := by
  rw [Recrawling.content, recrawlingNorth_state] at stored
  obtain ⟨listed, own⟩ := InMemoryCatalogCache.mem_of_holding stored
  simp only [List.mem_append, List.mem_cons, List.not_mem_nil, or_false, List.mem_replicate]
    at listed
  rcases listed with (first | second) | ⟨_, again⟩
  · exact ⟨own, .inr (.inl first)⟩
  · exact ⟨own, .inl second⟩
  · exact ⟨own, .inr (.inr again)⟩

/-- Read between two visits, two pages of one catalog each show `north` twice and `south`
never. -/
theorem minted_ids_break_pages :
    ¬ (recrawlingNorth "3").OrderKept ∧
    (recrawlingNorth "3").state 0 = AtomicCache.memory.holding [northAs "1", southSecond] ∧
    (recrawlingNorth "3").state 1 =
      AtomicCache.memory.holding [northAs "1", southSecond, northAs "3"] ∧
    (InMemoryCatalogCache.holding [northAs "1", southSecond]).query .entries ⟨none, 0, some 1⟩ =
      .ok [northAs "1"] ∧
    (InMemoryCatalogCache.holding [northAs "1", southSecond, northAs "3"]).query .entries
      ⟨none, 1, some 1⟩ = .ok [northAs "3"] ∧
    (InMemoryCatalogCache.holding [northAs "1", southSecond, northAs "3"]).query .entries
      ⟨none, 2, some 1⟩ = .ok [] := by
  refine ⟨?_, recrawlingNorth_state "3" 0, recrawlingNorth_state "3" 1, by decide +kernel,
    by decide +kernel, by decide +kernel⟩
  intro kept
  have before : (InMemoryCatalogCache.holding [northAs "1", southSecond]).query .entries .all =
      .ok [northAs "1", southSecond] := by decide +kernel
  have after : (InMemoryCatalogCache.holding
      [northAs "1", southSecond, northAs "3"]).query .entries .all =
        .ok [southSecond, northAs "3"] := by decide +kernel
  have nodes := kept.order 0 1 _ _ (recrawlingNorth_answers "3" 0 before)
    (recrawlingNorth_answers "3" 1 after)
  exact absurd nodes (by decide +kernel)

theorem north_keeps_its_rank : (recrawlingNorth "0").OrderKept := by
  have found : (InMemoryCatalogCache.holding [northAs "1", southSecond]).query .entries .all =
      .ok [northAs "1", southSecond] := by decide +kernel
  have first : (recrawlingNorth "0").content 0 =
      (InMemoryCatalogCache.holding [northAs "1", southSecond]).content := by
    rw [Recrawling.content, recrawlingNorth_state]
    rfl
  apply Recrawling.order_kept
  constructor
  · rw [first]
    exact .of_nodup ((CacheView.holding [northAs "1", southSecond]).listing found).1
      (by decide +kernel)
  · intro turn catalog fetched old present node other different stored
    have own : catalog = northAs "0" :=
      Except.ok.inj (fetched.symm.trans (emptyCatalogAs_crawled "0" rfl))
    subst own
    obtain ⟨at_, rfl | rfl | rfl⟩ := recrawlingNorth_entries "0" turn stored
    · obtain ⟨oldAt, rfl | rfl | rfl⟩ := recrawlingNorth_entries "0" turn present
      · exact absurd oldAt (by decide)
      · decide +kernel
      · decide +kernel
    · exact absurd at_.symm different
    · exact absurd at_.symm different

end FederatedCatalog.Crawler
