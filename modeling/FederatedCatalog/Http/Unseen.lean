import FederatedCatalog.Crawler.Schedules
import FederatedCatalog.Http.Service

/-!
# Participants a caller sees nothing of

Two runs of a server that differ only in what some participants report, none
of it for the caller to see.  A lookup answers this caller the same in both
runs, to the byte, and so does the catalog request while two other nodes are
cached.
-/

namespace FederatedCatalog.Http

open Foundation Json FederatedCatalog.Core Dcp Store Crawler

variable {platform : Platform}

def VisibleApart (allowed : Option (Finset String)) (content : CatalogMap) : Prop :=
  ∀ node other catalog further, content node = some catalog → content other = some further →
    Visible allowed catalog → Visible allowed further → catalog.id = further.id → node = other

/-- Contents that differ at nodes of `unseen` only, which show the caller nothing. -/
structure AlikeBut (allowed : Option (Finset String)) (unseen : Set NodeId)
    (first second : CatalogMap) : Prop where
  same : ∀ node, node ∉ unseen → first node = second node
  hidden : ∀ node catalog, node ∈ unseen → first node = some catalog →
    ¬Visible allowed catalog
  otherHidden : ∀ node catalog, node ∈ unseen → second node = some catalog →
    ¬Visible allowed catalog

section Answers

variable {auth : DspAuthConfig platform} {headers : Headers} {http : Dcp.Http} {now : Seconds}
  {jti : String} {allowed : Option (Finset String)} {unseen : Set NodeId}
  {first second : CacheView} {catalogs others : List Catalog}

theorem AlikeBut.symm {content other : CatalogMap} (alike : AlikeBut allowed unseen content other) :
    AlikeBut allowed unseen other content where
  same node outside := (alike.same node outside).symm
  hidden := alike.otherHidden
  otherHidden := alike.hidden

theorem AlikeBut.visible_iff {content other : CatalogMap}
    (alike : AlikeBut allowed unseen content other) {catalog : Catalog}
    (visible : Visible allowed catalog) :
    content catalog.originNode = some catalog ↔ other catalog.originNode = some catalog := by
  by_cases inside : catalog.originNode ∈ unseen
  · constructor
    · intro stored
      exact absurd visible (alike.hidden _ catalog inside stored)
    · intro stored
      exact absurd visible (alike.otherHidden _ catalog inside stored)
  · rw [alike.same _ inside]

theorem AlikeBut.listed (alike : AlikeBut allowed unseen first.content second.content)
    (apart : VisibleApart allowed first.content) (found : first.query .all = .ok catalogs)
    (otherFound : second.query .all = .ok others) :
    (catalogs.filter fun catalog => Visible allowed catalog) =
      others.filter fun catalog => Visible allowed catalog := by
  obtain ⟨lists, ordered⟩ := first.listing found
  obtain ⟨otherLists, otherOrdered⟩ := second.listing otherFound
  apply lists.filter_eq otherLists ordered otherOrdered
  · intro catalog visible
    exact alike.visible_iff (of_decide_eq_true visible)
  · intro catalog membership other otherMembership visible otherVisible sameId
    have stored := lists.stored catalog membership
    have otherStored := lists.stored other otherMembership
    have node := apart _ _ catalog other stored otherStored (of_decide_eq_true visible)
      (of_decide_eq_true otherVisible) sameId
    rw [node, otherStored] at stored
    exact (Option.some.inj stored).symm

theorem getDspDataset_congr (entitled : Entitled auth headers http now jti allowed)
    (found : first.query .all = .ok catalogs) (otherFound : second.query .all = .ok others)
    (same : (catalogs.filter fun catalog => Visible allowed catalog) =
      others.filter fun catalog => Visible allowed catalog) (id : String) :
    getDspDataset ⟨first, auth⟩ headers http now jti id =
      getDspDataset ⟨second, auth⟩ headers http now jti id := by
  have granted : ∀ listed : List Catalog,
      visibleDatasets allowed (flattenCatalogs listed).1 =
        grantedDatasets allowed (listed.filter fun catalog => Visible allowed catalog) := by
    intro listed
    rw [flattenCatalogs_eq, visibleDatasets_flatMap, grantedDatasets_filter]
    rfl
  unfold getDspDataset
  rw [entitled.authorize_eq]
  simp only [pure_bind, flattenCache, found, otherFound, Except.map, granted, same]

def federationDocument (nested : List DspCatalog) : Supply String DspCatalog := do
  let id ← newUrnUuid
  return {
    context := [dspContextUrl]
    id
    ldType := "Catalog"
    participantId := connectorParticipantId
    dataset := []
    service := []
    catalog := nested }

/-- Among two nodes or more, the hidden ones draw no ids and leave no entries. -/
theorem catalogDocument_many (allowed : Option (Finset String)) {catalogs : List Catalog}
    (many : 2 ≤ catalogs.length) :
    catalogDocument allowed catalogs =
      (catalogs.filter fun catalog => Visible allowed catalog).mapM (nestedCatalog allowed) >>=
        fun nested => federationDocument nested.reduceOption := by
  have hides : ∀ catalog, decide (Visible allowed catalog) = false →
      nestedCatalog allowed catalog = pure none := by
    intro catalog hidden
    have nothing : visibleDatasets allowed catalog.datasets = [] :=
      not_not.mp (of_decide_eq_false hidden)
    rw [nestedCatalog, if_pos nothing]
  rw [catalogDocument, if_neg (by omega)]
  exact mapM_filter_reduceOption hides catalogs federationDocument

theorem catalogRequest_congr (entitled : Entitled auth headers http now jti allowed)
    (found : first.query .all = .ok catalogs) (otherFound : second.query .all = .ok others)
    (many : 2 ≤ catalogs.length) (otherMany : 2 ≤ others.length)
    (same : (catalogs.filter fun catalog => Visible allowed catalog) =
      others.filter fun catalog => Visible allowed catalog) :
    catalogRequest ⟨first, auth⟩ headers http now jti =
      catalogRequest ⟨second, auth⟩ headers http now jti := by
  rw [catalogRequest_entitled ⟨first, auth⟩ headers http now jti entitled found,
    catalogRequest_entitled ⟨second, auth⟩ headers http now jti entitled otherFound,
    catalogDocument_many allowed many, catalogDocument_many allowed otherMany, same]

/-- Two nodes outside `unseen` are cached. -/
def TwoOthers (unseen : Set NodeId) (content : CatalogMap) : Prop :=
  ∃ node other, node ≠ other ∧ node ∉ unseen ∧ other ∉ unseen ∧
    (content node).isSome = true ∧ (content other).isSome = true

theorem TwoOthers.many {unseen : Set NodeId} (two : TwoOthers unseen first.content)
    (found : first.query .all = .ok catalogs) : 2 ≤ catalogs.length := by
  obtain ⟨node, other, apart, _, _, present, otherPresent⟩ := two
  obtain ⟨catalog, stored⟩ := Option.isSome_iff_exists.mp present
  obtain ⟨further, otherStored⟩ := Option.isSome_iff_exists.mp otherPresent
  obtain ⟨lists, _⟩ := first.listing found
  obtain ⟨membership, named⟩ := lists.complete node catalog stored
  obtain ⟨otherMembership, otherNamed⟩ := lists.complete other further otherStored
  by_contra few
  have single := eq_singleton_of_mem membership (by omega)
  rw [single, List.mem_singleton] at otherMembership
  rw [← named, ← otherNamed, otherMembership] at apart
  exact apart rfl

theorem TwoOthers.of_alike {content other : CatalogMap} (two : TwoOthers unseen content)
    (alike : AlikeBut allowed unseen content other) : TwoOthers unseen other := by
  obtain ⟨node, further, apart, outside, otherOutside, present, otherPresent⟩ := two
  rw [alike.same node outside] at present
  rw [alike.same further otherOutside] at otherPresent
  exact ⟨node, further, apart, outside, otherOutside, present, otherPresent⟩

end Answers

section Visits

variable {cache : AtomicCache} {holder : Option (HolderIdentity platform)}
  {allowed : Option (Finset String)} {unseen : Set NodeId} {content : CatalogMap}
  {participant : ParticipantEntry} {encounter : Encounter cache} {state other : cache.State}

theorem AlikeBut.visit_unseen (alike : AlikeBut allowed unseen (cache.content state) content)
    (inside : ⟨participant.id⟩ ∈ unseen)
    (nothing : ∀ catalog, crawlOne encounter.world participant holder = .ok catalog →
      ¬Visible allowed catalog) :
    AlikeBut allowed unseen
      (cache.content (Visit.make holder participant encounter state).2) content := by
  rcases Visit.make_spec holder participant encounter state with
    ⟨catalog, fetched, _, stored⟩ | ⟨_, _, unchanged⟩
  · have own := crawlOne_originNode fetched
    rw [stored]
    refine ⟨?_, ?_, alike.otherHidden⟩
    · intro node outside
      have different : node ≠ catalog.originNode := by
        intro same
        rw [own] at same
        exact outside (same ▸ inside)
      rw [KeyedMap.store_apply, if_neg different]
      exact alike.same node outside
    · intro node kept member present
      rw [KeyedMap.store_apply] at present
      split at present
      · cases present
        exact nothing catalog fetched
      · exact alike.hidden node kept member present
  · rw [unchanged]
    exact alike

theorem AlikeBut.visit_same (decides : cache.EnvironmentDecides)
    (alike : AlikeBut allowed unseen (cache.content state) (cache.content other))
    (outside : ⟨participant.id⟩ ∉ unseen) :
    AlikeBut allowed unseen
      (cache.content (Visit.make holder participant encounter state).2)
      (cache.content (Visit.make holder participant encounter other).2) := by
  have sameVisit : (Visit.make holder participant encounter state).1 =
      (Visit.make holder participant encounter other).1 :=
    outcome_congr holder decides state other (participant, encounter)
  have elsewhere : ∀ node ∈ unseen, node.value ≠ participant.id := by
    intro node member same
    apply outside
    rw [← same]
    exact member
  refine ⟨?_, ?_, ?_⟩
  · intro node away
    rw [content_make, content_make, sameVisit, alike.same node away]
  · intro node catalog member present
    rw [Visit.make_frame holder participant encounter state (elsewhere node member)] at present
    exact alike.hidden node catalog member present
  · intro node catalog member present
    rw [Visit.make_frame holder participant encounter other (elsewhere node member)] at present
    exact alike.otherHidden node catalog member present

end Visits

/-! ## Two runs -/

/-- An event that brings nothing to see: a request, or a visit to an unseen node. -/
inductive Quiet {cache : AtomicCache} (holder : Option (HolderIdentity platform))
    (allowed : Option (Finset String)) (unseen : Set NodeId) : ServerEvent cache → Prop where
  | answer (request : Request) (around : Surroundings) :
      Quiet holder allowed unseen (.answer request around)
  | visit {participant : ParticipantEntry} {encounter : Encounter cache}
      (inside : ⟨participant.id⟩ ∈ unseen)
      (nothing : ∀ catalog, crawlOne encounter.world participant holder = .ok catalog →
        ¬Visible allowed catalog) :
      Quiet holder allowed unseen (.visit participant encounter)

namespace ServerRun

variable (run : ServerRun platform) {turn : Nat}

theorem state_visit {participant : ParticipantEntry} {encounter : Encounter run.cache}
    (happens : run.events turn = .visit participant encounter) :
    run.state (turn + 1) =
      (Visit.make run.holder participant encounter (run.state turn)).2 := by
  rw [state, happens]

theorem state_answer {request : Request} {around : Surroundings}
    (happens : run.events turn = .answer request around) :
    run.state (turn + 1) = run.state turn := by
  rw [state, happens]

theorem alike_quiet {allowed : Option (Finset String)} {unseen : Set NodeId}
    {content : CatalogMap}
    (alike : AlikeBut allowed unseen (run.cache.content (run.state turn)) content)
    (quiet : Quiet run.holder allowed unseen (run.events turn)) :
    AlikeBut allowed unseen (run.cache.content (run.state (turn + 1))) content := by
  generalize happens : run.events turn = event at quiet
  cases quiet with
  | answer request around =>
      rw [run.state_answer happens]
      exact alike
  | visit inside nothing =>
      rw [run.state_visit happens]
      exact alike.visit_unseen inside nothing

end ServerRun

/-- What may happen in the two runs at a turn. -/
inductive Counterparts {cache : AtomicCache} (holder : Option (HolderIdentity platform))
    (allowed : Option (Finset String)) (unseen : Set NodeId) :
    ServerEvent cache → ServerEvent cache → Prop where
  | visit {participant : ParticipantEntry} {encounter : Encounter cache}
      (outside : ⟨participant.id⟩ ∉ unseen) :
      Counterparts holder allowed unseen (.visit participant encounter)
        (.visit participant encounter)
  | quiet {event other : ServerEvent cache} (quiet : Quiet holder allowed unseen event)
      (otherQuiet : Quiet holder allowed unseen other) :
      Counterparts holder allowed unseen event other

/-- Two runs of one server that differ in what some participants report, none of it for a caller
with the grants `allowed` to see. -/
structure Twins (platform : Platform) (allowed : Option (Finset String))
    (unseen : Set NodeId) where
  cache : AtomicCache
  decides : cache.EnvironmentDecides
  auth : DspAuthConfig platform
  holder : Option (HolderIdentity platform)
  initial : cache.State
  otherInitial : cache.State
  alike : AlikeBut allowed unseen (cache.content initial) (cache.content otherInitial)
  events : Nat → ServerEvent cache
  otherEvents : Nat → ServerEvent cache
  counterparts : ∀ turn, Counterparts holder allowed unseen (events turn) (otherEvents turn)
  view : Nat → CacheView
  otherView : Nat → CacheView

namespace Twins

variable {allowed : Option (Finset String)} {unseen : Set NodeId}
  (twins : Twins platform allowed unseen)

def first : ServerRun platform :=
  ⟨twins.cache, twins.auth, twins.holder, twins.initial, twins.events, twins.view⟩

def second : ServerRun platform :=
  ⟨twins.cache, twins.auth, twins.holder, twins.otherInitial, twins.otherEvents,
    twins.otherView⟩

/-- Both runs answer a request of the caller with the same bytes, given the same fresh uuids. -/
structure Unaffected : Prop where
  lookups : ∀ turn headers around id catalogs others,
    twins.events turn = .answer (.getDspDataset headers id) around →
    twins.otherEvents turn = .answer (.getDspDataset headers id) around →
    Entitled twins.auth headers around.http around.now around.jti allowed →
    (twins.view turn).query .all = .ok catalogs →
    (twins.otherView turn).query .all = .ok others →
    VisibleApart allowed (twins.first.known turn) →
    twins.first.response turn = twins.second.response turn
  requests : ∀ turn headers around catalogs others,
    twins.events turn = .answer (.catalogRequest headers) around →
    twins.otherEvents turn = .answer (.catalogRequest headers) around →
    Entitled twins.auth headers around.http around.now around.jti allowed →
    (twins.view turn).query .all = .ok catalogs →
    (twins.otherView turn).query .all = .ok others →
    VisibleApart allowed (twins.first.known turn) →
    TwoOthers unseen (twins.first.known turn) →
    twins.first.response turn = twins.second.response turn

variable {twins}

theorem alike_step {turn : Nat}
    (alike : AlikeBut allowed unseen (twins.cache.content (twins.first.state turn))
      (twins.cache.content (twins.second.state turn))) :
    AlikeBut allowed unseen (twins.cache.content (twins.first.state (turn + 1)))
      (twins.cache.content (twins.second.state (turn + 1))) := by
  have counterparts := twins.counterparts turn
  generalize happens : twins.events turn = event at counterparts
  generalize otherHappens : twins.otherEvents turn = other at counterparts
  cases counterparts with
  | visit outside =>
      rw [twins.first.state_visit happens, twins.second.state_visit otherHappens]
      exact alike.visit_same twins.decides outside
  | quiet quiet otherQuiet =>
      rw [← happens] at quiet
      rw [← otherHappens] at otherQuiet
      have half := twins.first.alike_quiet alike quiet
      exact (twins.second.alike_quiet half.symm otherQuiet).symm

theorem alike_known (turn : Nat) :
    AlikeBut allowed unseen (twins.first.known turn) (twins.second.known turn) := by
  rw [← twins.first.content_state, ← twins.second.content_state]
  induction turn with
  | zero => exact twins.alike
  | succ turn inductionHypothesis => exact alike_step inductionHypothesis

/-- Unseen participants have no influence on what the caller is told. -/
theorem unseen_participants_go_unnoticed (current : twins.first.Current)
    (otherCurrent : twins.second.Current) : twins.Unaffected := by
  have alike : ∀ turn, AlikeBut allowed unseen (twins.view turn).content
      (twins.otherView turn).content := by
    intro turn
    have same := current turn
    have otherSame := otherCurrent turn
    rw [ServerRun.content_state] at same otherSame
    have known := twins.alike_known turn
    rw [← same, ← otherSame] at known
    exact known
  have sameKnown : ∀ turn, twins.first.known turn = (twins.view turn).content := by
    intro turn
    rw [← ServerRun.content_state]
    exact (current turn).symm
  constructor
  · intro turn headers around id catalogs others happens otherHappens entitled found otherFound
      apart
    rw [sameKnown] at apart
    have listed := (alike turn).listed apart found otherFound
    rw [twins.first.response_answer happens, twins.second.response_answer otherHappens]
    exact congrArg (fun answer => some (Response.encode platform (answer.value around.uuids)))
      (getDspDataset_congr entitled found otherFound listed id)
  · intro turn headers around catalogs others happens otherHappens entitled found otherFound
      apart two
    rw [sameKnown] at apart two
    have listed := (alike turn).listed apart found otherFound
    have many := two.many found
    have otherMany := (two.of_alike (alike turn)).many otherFound
    rw [twins.first.response_answer happens, twins.second.response_answer otherHappens]
    exact congrArg (fun answer => some (Response.encode platform (answer.value around.uuids)))
      (catalogRequest_congr entitled found otherFound many otherMany listed)

end Twins

def sandBody : Value :=
  .object [
    ("@id", .string "catalog-of-south"),
    ("dataset", .array [.object [("@id", .string "sand")]])]

def southWithSand : Catalog := parseCatalogResponse sandBody (participantAt "south") ""

theorem southWithSand_crawled :
    crawlOne (.answering .reference fun _ => sandBody) (participantAt "south")
      (none : Option (HolderIdentity .reference)) = .ok southWithSand :=
  crawlOne_answering none rfl (by simp [sandBody])

def southOffline : CrawlWorld := { emptyCatalogs with http := .offline }

theorem southOffline_uncrawled :
    crawlOne southOffline (participantAt "south") (none : Option (HolderIdentity .reference)) =
      .error ("request to " ++ (participantAt "south").catalogRequestUrl ++
        " failed: " ++ "dns error") := rfl

def iceAndSalt : List Catalog := [offering "north" "ice", offering "east" "salt"]

def aliceAsks : ServerEvent .memory :=
  .answer (.getDspDataset (bearerHeaders "alice") "ice") ⟨.offline, 0, "t3", 0, "vp", Nat.repr⟩

theorem quiet_visit_south {world : CrawlWorld}
    (nothing : ∀ catalog, crawlOne world (participantAt "south")
        (none : Option (HolderIdentity .reference)) = .ok catalog →
      ¬Visible (some {"ice"}) catalog) :
    Quiet (none : Option (HolderIdentity .reference)) (some {"ice"}) {⟨"south"⟩}
      (.visit (participantAt "south") world.inMemory) :=
  .visit rfl nothing

def eventsInWorld (world : CrawlWorld) : Nat → ServerEvent .memory
  | 0 => .visit (participantAt "south") world.inMemory
  | _ + 1 => aliceAsks

theorem iceAndSalt_unknown :
    (InMemoryCatalogCache.holding iceAndSalt).content ⟨"south"⟩ = none := by
  decide +kernel

theorem iceAndSalt_alike :
    AlikeBut (some {"ice"}) {⟨"south"⟩} (InMemoryCatalogCache.holding iceAndSalt).content
      (InMemoryCatalogCache.holding iceAndSalt).content := by
  have hidden : ∀ node catalog, node ∈ ({⟨"south"⟩} : Set NodeId) →
      (InMemoryCatalogCache.holding iceAndSalt).content node = some catalog →
      ¬Visible (some {"ice"}) catalog := by
    intro node catalog member stored
    obtain rfl : node = ⟨"south"⟩ := member
    cases iceAndSalt_unknown.symm.trans stored
  exact ⟨fun _ _ => rfl, hidden, hidden⟩

theorem southWithSand_invisible : ¬Visible (some {"ice"}) southWithSand := by decide +kernel

theorem eventsInWorld_counterparts (turn : Nat) :
    Counterparts (none : Option (HolderIdentity .reference)) (some {"ice"}) {⟨"south"⟩}
      (eventsInWorld (.answering .reference fun _ => sandBody) turn)
      (eventsInWorld southOffline turn) := by
  cases turn with
  | succ turn => exact .quiet (.answer _ _) (.answer _ _)
  | zero =>
      apply Counterparts.quiet
      · apply quiet_visit_south
        intro catalog fetched
        cases southWithSand_crawled.symm.trans fetched
        exact southWithSand_invisible
      · apply quiet_visit_south
        intro catalog fetched
        cases southOffline_uncrawled.symm.trans fetched

/-- Alice may see ice only. -/
def sandTwins : Twins .reference (some {"ice"}) {⟨"south"⟩} where
  cache := .memory
  decides := AtomicCache.memory_decides
  auth := oneGrant "alice" "ice"
  holder := none
  initial := AtomicCache.memory.holding iceAndSalt
  otherInitial := AtomicCache.memory.holding iceAndSalt
  alike := iceAndSalt_alike
  events := eventsInWorld (.answering .reference fun _ => sandBody)
  otherEvents := eventsInWorld southOffline
  counterparts := eventsInWorld_counterparts
  view
    | 0 => .holding iceAndSalt
    | _ + 1 => .holding (iceAndSalt ++ [southWithSand])
  otherView _ := .holding iceAndSalt

theorem sandTwins_first_state (turn : Nat) :
    sandTwins.first.state (turn + 1) =
      AtomicCache.memory.holding (iceAndSalt ++ [southWithSand]) := by
  induction turn with
  | zero =>
      exact congrArg Prod.snd
        (Visit.make_inMemory none (participantAt "south") southWithSand_crawled iceAndSalt)
  | succ turn inductionHypothesis => exact inductionHypothesis

theorem sandTwins_second_state (turn : Nat) :
    sandTwins.second.state turn = AtomicCache.memory.holding iceAndSalt := by
  induction turn with
  | zero => rfl
  | succ turn inductionHypothesis =>
      cases turn with
      | zero =>
          exact congrArg Prod.snd (Visit.make_failed none (participantAt "south")
            southOffline.inMemory (AtomicCache.memory.holding iceAndSalt) southOffline_uncrawled)
      | succ turn => exact inductionHypothesis

theorem sand_goes_unnoticed : sandTwins.Unaffected := by
  apply Twins.unseen_participants_go_unnoticed
  · intro turn
    cases turn with
    | zero => rfl
    | succ turn =>
        rw [sandTwins_first_state]
        rfl
  · intro turn
    rw [sandTwins_second_state]
    rfl

end FederatedCatalog.Http
