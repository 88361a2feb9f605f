import FederatedCatalog.Crawler.Config
import FederatedCatalog.Foundation.Traces

/-!
# The order of the participants

Visits to different participants do not affect each other.  However the
participants of a cycle are ordered, as long as the visits under one id stay in
order, every cycle reports the same and leaves the same entries.
-/

namespace FederatedCatalog.Crawler

open Foundation Json FederatedCatalog.Core Dcp Store

variable {platform : Platform} {cache : AtomicCache}

/-- Whether an upsert succeeds is up to the environment, not to what is cached. -/
def AtomicCache.EnvironmentDecides (cache : AtomicCache) : Prop :=
  ∀ choice state other catalog,
    (cache.upsert choice state catalog).1 = (cache.upsert choice other catalog).1

theorem AtomicCache.memory_decides : AtomicCache.memory.EnvironmentDecides :=
  fun _ _ _ _ => rfl

theorem AtomicCache.oxigraph_decides (support : OxigraphSupport) :
    (AtomicCache.oxigraph support).EnvironmentDecides := by
  intro orders state other catalog
  have stored := (OxigraphCatalogCache.upsert_run state.2 orders catalog).1
  have otherStored := (OxigraphCatalogCache.upsert_run other.2 orders catalog).1
  exact stored.trans otherStored.symm

/-- A participant, and the surroundings it is visited in. -/
abbrev Meeting (cache : AtomicCache) : Type := ParticipantEntry × Encounter cache

def Meeting.name (meeting : Meeting cache) : String := meeting.1.id

def schedule (participants : List ParticipantEntry) (encounters : Nat → Encounter cache) :
    List (Meeting cache) :=
  participants.mapIdx fun index participant => (participant, encounters index)

variable (holder : Option (HolderIdentity platform))

def outcome (state : cache.State) (meeting : Meeting cache) : Visit cache :=
  (Visit.make holder meeting.1 meeting.2 state).1

theorem outcome_congr (decides : cache.EnvironmentDecides) (state other : cache.State)
    (meeting : Meeting cache) : outcome holder state meeting = outcome holder other meeting := by
  unfold outcome
  cases fetched : crawlOne meeting.2.world meeting.1 holder with
  | error error =>
      rw [Visit.make_failed holder _ _ state fetched, Visit.make_failed holder _ _ other fetched]
  | ok catalog =>
      have same := decides meeting.2.choice state other catalog
      cases upserted : (cache.upsert meeting.2.choice state catalog).1 <;>
        simp [Visit.make, fetched, upserted, ← same]

theorem visits_eq_outcomes (decides : cache.EnvironmentDecides)
    (participants : List ParticipantEntry) (encounters : Nat → Encounter cache)
    (state initial : cache.State) :
    visits holder participants encounters state =
      (schedule participants encounters).map (outcome holder initial) := by
  induction participants generalizing encounters state with
  | nil => rfl
  | cons participant rest inductionHypothesis =>
      have first := outcome_congr holder decides state initial
        (participant, encounters 0)
      rw [visits, inductionHypothesis, schedule, schedule, List.mapIdx_cons, List.map_cons]
      rw [← first]
      rfl

variable {holder}

def Visit.name (visit : Visit cache) : String := visit.participant.id

theorem lastGood_of_sameTraces {log other : List (Visit cache)}
    (same : SameTraces Visit.name log other) (node : NodeId) :
    lastGood log node = lastGood other node := by
  unfold lastGood
  congr 1
  exact same.find?_last Visit.succeeded node.value

/-- The same counts, and for each participant the same errors in the same order. -/
structure SameReport (first second : CrawlSummary) : Prop where
  attempted : first.attempted = second.attempted
  succeeded : first.succeeded = second.succeeded
  failed : first.failed = second.failed
  failures : SameTraces Prod.fst first.failures second.failures

theorem Summarizes.sameReport {first second : CrawlSummary} {log other : List (Visit cache)}
    (summarizes : Summarizes first log) (otherSummarizes : Summarizes second other)
    (same : SameTraces Visit.name log other) : SameReport first second := by
  have reordered := same.perm
  have attempted : first.attempted = second.attempted := by
    rw [summarizes.attempted, otherSummarizes.attempted, reordered.length_eq]
  have succeeded : first.succeeded = second.succeeded := by
    rw [summarizes.succeeded, otherSummarizes.succeeded]
    exact reordered.countP_eq Visit.succeeded
  have balanced := summarizes.balanced
  have otherBalanced := otherSummarizes.balanced
  refine ⟨attempted, succeeded, by omega, ?_⟩
  rw [summarizes.failures, otherSummarizes.failures]
  apply same.filterMap
  intro visit failure failed
  unfold Visit.failure at failed
  split at failed
  · cases failed
  · cases failed
    rfl

section Cycles

variable {participants reordered : List ParticipantEntry}

theorem sameTraces_outcomes {meetings others : List (Meeting cache)}
    (same : SameTraces Meeting.name meetings others) (state : cache.State) :
    SameTraces Visit.name (meetings.map (outcome holder state))
      (others.map (outcome holder state)) := by
  apply same.map
  intro meeting
  exact congrArg ParticipantEntry.id
    (Visit.make_participant holder meeting.1 meeting.2 state)

variable (holder) in
theorem visits_sameTraces (decides : cache.EnvironmentDecides)
    {encounters others : Nat → Encounter cache}
    (same : SameTraces Meeting.name (schedule participants encounters)
      (schedule reordered others)) (state other : cache.State) :
    SameTraces Visit.name (visits holder participants encounters state)
      (visits holder reordered others other) := by
  rw [visits_eq_outcomes holder decides participants encounters state state,
    visits_eq_outcomes holder decides reordered others other state]
  exact sameTraces_outcomes same state

/-- Participants with distinct ids, each met in its own surroundings, may be listed in any order. -/
theorem schedule_sameTraces (permuted : participants.Perm reordered)
    (distinct : (participants.map ParticipantEntry.id).Nodup)
    {surroundings : ParticipantEntry → Encounter cache}
    {encounters others : Nat → Encounter cache}
    (met : ∀ index participant, participants[index]? = some participant →
      encounters index = surroundings participant)
    (otherMet : ∀ index participant, reordered[index]? = some participant →
      others index = surroundings participant) :
    SameTraces Meeting.name (schedule participants encounters) (schedule reordered others) := by
  have own : ∀ (listed : List ParticipantEntry) (meets : Nat → Encounter cache),
      (∀ index participant, listed[index]? = some participant →
        meets index = surroundings participant) →
      schedule listed meets =
        listed.map fun participant => (participant, surroundings participant) := by
    intro listed meets each
    apply List.ext_getElem?
    intro index
    rw [schedule, List.getElem?_mapIdx, List.getElem?_map]
    cases at_ : listed[index]? with
    | none => rfl
    | some participant => rw [Option.map_some, Option.map_some, each index participant at_]
  rw [own participants encounters met, own reordered others otherMet]
  exact (SameTraces.of_perm permuted distinct).map fun _ => rfl

structure CrawlAlike (holder : Option (HolderIdentity platform))
    (participants reordered : List ParticipantEntry)
    (encounters others : Nat → Nat → Encounter cache) (initial other : cache.State) : Prop where
  entries : ∀ cycle,
    cache.content (afterCycles holder participants encounters initial cycle) =
      cache.content (afterCycles holder reordered others other cycle)
  reports : ∀ cycle, SameReport
    (crawlOnce holder participants (encounters cycle)
      (afterCycles holder participants encounters initial cycle)).1
    (crawlOnce holder reordered (others cycle)
      (afterCycles holder reordered others other cycle)).1
  /-- A cycle run again in either order changes nothing. -/
  again : ∀ cycle,
    cache.content (crawlOnce holder reordered (others cycle)
        (afterCycles holder participants encounters initial (cycle + 1))).2 =
      cache.content (afterCycles holder participants encounters initial (cycle + 1))

theorem content_crawlOnce_congr (decides : cache.EnvironmentDecides)
    {encounters others : Nat → Encounter cache}
    (same : SameTraces Meeting.name (schedule participants encounters)
      (schedule reordered others)) {state other : cache.State}
    (content : cache.content state = cache.content other) :
    cache.content (crawlOnce holder participants encounters state).2 =
      cache.content (crawlOnce holder reordered others other).2 := by
  have traces := visits_sameTraces holder decides same state other
  funext node
  rw [crawlOnce, crawlOnce, content_crawlFrom, content_crawlFrom,
    lastGood_of_sameTraces traces, content]

theorem reordered_participants_crawl_alike (decides : cache.EnvironmentDecides)
    {encounters others : Nat → Nat → Encounter cache}
    (same : ∀ cycle, SameTraces Meeting.name (schedule participants (encounters cycle))
      (schedule reordered (others cycle)))
    {initial other : cache.State} (content : cache.content initial = cache.content other) :
    CrawlAlike holder participants reordered encounters others initial other where
  entries := by
    intro cycle
    induction cycle with
    | zero => exact content
    | succ cycle inductionHypothesis =>
        exact content_crawlOnce_congr decides (same cycle) inductionHypothesis
  reports := by
    intro cycle
    have traces := visits_sameTraces holder decides (same cycle)
      (afterCycles holder participants encounters initial cycle)
      (afterCycles holder reordered others other cycle)
    rw [crawlOnce, crawlOnce, summary_crawlFrom, summary_crawlFrom]
    exact (CrawlSummary.summarizes _).sameReport (CrawlSummary.summarizes _) traces
  again := by
    intro cycle
    funext node
    have traces := visits_sameTraces holder decides (same cycle)
      (afterCycles holder participants encounters initial cycle)
      (afterCycles holder participants encounters initial (cycle + 1))
    rw [crawlOnce, content_crawlFrom, ← lastGood_of_sameTraces traces, afterCycles, crawlOnce,
      content_crawlFrom, ← Option.or_assoc, Option.or_self]

end Cycles

def southDown (participant : ParticipantEntry) : Encounter .memory :=
  if participant.id = "north" then emptyCatalogs.inMemory
  else CrawlWorld.inMemory { emptyCatalogs with http := .offline }

def southDownIn (participants : List ParticipantEntry) (index : Nat) : Encounter .memory :=
  southDown (participants.getD index (participantAt "north"))

theorem southDownIn_met (participants : List ParticipantEntry) (index : Nat)
    (participant : ParticipantEntry) (listed : participants[index]? = some participant) :
    southDownIn participants index = southDown participant := by
  rw [southDownIn, List.getD_eq_getElem?_getD, listed, Option.getD_some]

theorem north_and_south_in_either_order :
    CrawlAlike (none : Option (HolderIdentity .reference))
      [participantAt "north", participantAt "south"] [participantAt "south", participantAt "north"]
      (fun _ => southDownIn [participantAt "north", participantAt "south"])
      (fun _ => southDownIn [participantAt "south", participantAt "north"])
      (AtomicCache.memory.holding []) (AtomicCache.memory.holding []) := by
  apply reordered_participants_crawl_alike AtomicCache.memory_decides
  · intro _
    apply schedule_sameTraces (List.Perm.swap _ _ _) (by decide)
    · exact southDownIn_met _
    · exact southDownIn_met _
  · rfl

end FederatedCatalog.Crawler
