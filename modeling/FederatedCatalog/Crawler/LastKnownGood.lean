import FederatedCatalog.Crawler.Crawl

/-!
# Last known good catalog

A history of visits says what became of each.  A cycle's summary is the
summary of its visits, and after any number of cycles each node's entry is the
catalog of the last successful visit to a participant of that name.
-/

namespace FederatedCatalog.Crawler

open Foundation Json FederatedCatalog.Core Dcp Store

variable {platform : Platform} {cache : AtomicCache}

/-- One visit: who was visited in what surroundings, and the catalog that was
cached or the error that was reported. -/
structure Visit (cache : AtomicCache) where
  participant : ParticipantEntry
  encounter : Encounter cache
  result : Except String Catalog

namespace Visit

def succeeded (visit : Visit cache) : Bool := visit.result.toOption.isSome

def failure (visit : Visit cache) : Option (String × String) :=
  match visit.result with
  | .ok _ => none
  | .error error => some (visit.participant.id, error)

/-- Visit one participant: fetch, parse, and cache. -/
def make (holder : Option (HolderIdentity platform)) (participant : ParticipantEntry)
    (encounter : Encounter cache) (state : cache.State) : Visit cache × cache.State :=
  match crawlOne encounter.world participant holder with
  | .error error => (⟨participant, encounter, .error error⟩, state)
  | .ok catalog =>
      let upserted := cache.upsert encounter.choice state catalog
      match upserted.1 with
      | .ok () => (⟨participant, encounter, .ok catalog⟩, upserted.2)
      | .error error => (⟨participant, encounter,
          .error ("failed to cache crawl result: " ++ error.display)⟩, upserted.2)

end Visit

def visits (holder : Option (HolderIdentity platform)) :
    List ParticipantEntry → (Nat → Encounter cache) → cache.State → List (Visit cache)
  | [], _, _ => []
  | participant :: rest, encounters, state =>
      let visited := Visit.make holder participant (encounters 0) state
      visited.1 :: visits holder rest (fun index => encounters (index + 1)) visited.2

def history (holder : Option (HolderIdentity platform)) (participants : List ParticipantEntry)
    (encounters : Nat → Nat → Encounter cache) (initial : cache.State) : Nat → List (Visit cache)
  | 0 => []
  | cycle + 1 => history holder participants encounters initial cycle ++
      visits holder participants (encounters cycle)
        (afterCycles holder participants encounters initial cycle)

/-- The catalog of the last successful visit to a participant named `node`. -/
def lastGood (log : List (Visit cache)) (node : NodeId) : Option Catalog :=
  (log.reverse.find? fun visit => visit.succeeded && visit.participant.id = node.value).bind
    fun visit => visit.result.toOption

structure Summarizes (summary : CrawlSummary) (log : List (Visit cache)) : Prop where
  attempted : summary.attempted = log.length
  balanced : summary.attempted = summary.succeeded + summary.failed
  succeeded : summary.succeeded = log.countP Visit.succeeded
  failures : summary.failures = log.filterMap Visit.failure

/-- The catalog was read from the response to this very visit. -/
def Visit.Read (holder : Option (HolderIdentity platform)) (visit : Visit cache)
    (catalog : Catalog) : Prop :=
  ∃ header response body,
    authorization visit.encounter.world visit.participant holder = .ok header ∧
    visit.encounter.world.http.post visit.participant.catalogRequestUrl header requestBody =
      .ok response ∧
    response.isSuccess = true ∧
    response.value platform = .ok body ∧
    catalog = parseCatalogResponse body visit.participant visit.encounter.world.freshId

/-- A visit's result is its fetch's, unless the fetched catalog could not be cached. -/
structure Visit.Faithful (holder : Option (HolderIdentity platform)) (visit : Visit cache) :
    Prop where
  read : ∀ catalog, visit.result = .ok catalog → visit.Read holder catalog
  unread : ∀ error, crawlOne visit.encounter.world visit.participant holder = .error error →
    visit.result = .error error
  uncached : ∀ error, visit.result = .error error →
    crawlOne visit.encounter.world visit.participant holder = .error error ∨
      ∃ refused : StoreError, error = "failed to cache crawl result: " ++ refused.display

theorem crawlOne_from {world : CrawlWorld} {participant : ParticipantEntry}
    {holder : Option (HolderIdentity platform)} {catalog : Catalog}
    (fetched : crawlOne world participant holder = .ok catalog) :
    ∃ header response body, authorization world participant holder = .ok header ∧
      world.http.post participant.catalogRequestUrl header requestBody = .ok response ∧
      response.isSuccess = true ∧ response.value platform = .ok body ∧
      catalog = parseCatalogResponse body participant world.freshId := by
  simp only [crawlOne, bind_eq_ok, mapErr_eq_ok, ensure_eq_ok, pure_eq_ok] at fetched
  obtain ⟨header, authorized, response, answered, _, success, body, parsed, read⟩ := fetched
  exact ⟨header, response, body, authorized, answered, success, parsed, read.symm⟩

theorem crawlOne_read {visit : Visit cache} {holder : Option (HolderIdentity platform)}
    {catalog : Catalog}
    (fetched : crawlOne visit.encounter.world visit.participant holder = .ok catalog) :
    visit.Read holder catalog :=
  crawlOne_from fetched

namespace Visit

variable (holder : Option (HolderIdentity platform)) (participant : ParticipantEntry)
  (encounter : Encounter cache) (state : cache.State)

@[simp]
theorem make_participant : (make holder participant encounter state).1.participant =
    participant := by
  unfold make
  split
  · rfl
  · dsimp only
    split <;> rfl

@[simp]
theorem make_encounter : (make holder participant encounter state).1.encounter = encounter := by
  unfold make
  split
  · rfl
  · dsimp only
    split <;> rfl

theorem make_failed {error : String}
    (failed : crawlOne encounter.world participant holder = .error error) :
    make holder participant encounter state = (⟨participant, encounter, .error error⟩, state) := by
  rw [make, failed]

theorem make_cached {catalog : Catalog}
    (fetched : crawlOne encounter.world participant holder = .ok catalog)
    (upserted : (cache.upsert encounter.choice state catalog).1 = .ok ()) :
    make holder participant encounter state =
      (⟨participant, encounter, .ok catalog⟩,
        (cache.upsert encounter.choice state catalog).2) := by
  simp [make, fetched, upserted]

theorem make_inMemory {world : CrawlWorld} {catalog : Catalog}
    (fetched : crawlOne world participant holder = .ok catalog) (held : List Catalog) :
    make holder participant world.inMemory (AtomicCache.memory.holding held) =
      (⟨participant, world.inMemory, .ok catalog⟩,
        AtomicCache.memory.holding (held ++ [catalog])) := by
  have stored : (AtomicCache.memory.upsert world.inMemory.choice (AtomicCache.memory.holding held)
      catalog).2 = AtomicCache.memory.holding (held ++ [catalog]) := by
    unfold AtomicCache.memory.holding InMemoryCatalogCache.holding
    rw [List.foldl_append]
    rfl
  rw [make_cached holder participant world.inMemory _ fetched rfl, stored]

/-- What a successful visit cached is what it fetched, and what a failed one left is the
content it found. -/
theorem make_spec :
    (∃ catalog, crawlOne encounter.world participant holder = .ok catalog ∧
      (make holder participant encounter state).1.result = .ok catalog ∧
      cache.content (make holder participant encounter state).2 =
        (cache.content state).store Catalog.originNode catalog) ∨
    ∃ error, (make holder participant encounter state).1.result = .error error ∧
      cache.content (make holder participant encounter state).2 = cache.content state := by
  cases fetched : crawlOne encounter.world participant holder with
  | error error =>
      right
      rw [make_failed holder participant encounter state fetched]
      exact ⟨error, rfl, rfl⟩
  | ok catalog =>
      cases upserted : (cache.upsert encounter.choice state catalog).1 with
      | ok done =>
          left
          have stored := cache.upsert_ok encounter.choice state catalog upserted
          refine ⟨catalog, rfl, ?_, ?_⟩ <;> simp [make, fetched, upserted, stored]
      | error error =>
          right
          have unchanged := cache.upsert_error encounter.choice state catalog error upserted
          refine ⟨"failed to cache crawl result: " ++ error.display, ?_, ?_⟩ <;>
            simp [make, fetched, upserted, unchanged]

theorem make_faithful : (make holder participant encounter state).1.Faithful holder where
  read := by
    intro catalog cached
    rcases make_spec holder participant encounter state with
      ⟨fetched, crawled, result, _⟩ | ⟨error, result, _⟩
    · rw [result] at cached
      cases cached
      exact crawlOne_read (by simpa using crawled)
    · rw [result] at cached
      cases cached
  unread := by
    intro error failed
    simp only [make_encounter, make_participant] at failed
    rw [make_failed holder participant encounter state failed]
  uncached := by
    intro error failed
    simp only [make_encounter, make_participant]
    unfold make at failed
    split at failed
    · next unread => exact .inl (unread.trans failed)
    · dsimp only at failed
      split at failed
      · cases failed
      · next refused _ => exact .inr ⟨refused, (Except.error.inj failed).symm⟩

theorem make_frame {node : NodeId} (other : node.value ≠ participant.id) :
    cache.content (make holder participant encounter state).2 node = cache.content state node := by
  rcases make_spec holder participant encounter state with
    ⟨catalog, crawled, _, stored⟩ | ⟨error, _, unchanged⟩
  · have different : node ≠ catalog.originNode := by
      rw [crawlOne_originNode crawled]
      rintro rfl
      exact other rfl
    rw [stored, KeyedMap.store_apply, if_neg different]
  · rw [unchanged]

end Visit

/-! ## The visits of a cycle -/

variable (holder : Option (HolderIdentity platform))

theorem lastGood_append (log later : List (Visit cache)) (node : NodeId) :
    lastGood (log ++ later) node = (lastGood later node).or (lastGood log node) := by
  simp only [lastGood, List.reverse_append, List.find?_append]
  cases found : later.reverse.find?
      (fun visit => visit.succeeded && visit.participant.id = node.value) with
  | none => simp
  | some visit =>
      have good := List.find?_some found
      simp only [Visit.succeeded, Bool.and_eq_true] at good
      cases result : visit.result.toOption with
      | none => simp [result] at good
      | some catalog => simp [result]

theorem content_make (participant : ParticipantEntry) (encounter : Encounter cache)
    (state : cache.State) (node : NodeId) :
    cache.content (Visit.make holder participant encounter state).2 node =
      (lastGood [(Visit.make holder participant encounter state).1] node).or
        (cache.content state node) := by
  by_cases own : participant.id = node.value
  · rcases Visit.make_spec holder participant encounter state with
      ⟨catalog, crawled, result, stored⟩ | ⟨error, result, unchanged⟩
    · have sameNode : node = catalog.originNode := by
        rw [crawlOne_originNode crawled, own]
      rw [stored, sameNode, KeyedMap.store_same]
      rw [sameNode] at own
      simp [lastGood, Visit.succeeded, result, own, Except.toOption]
    · rw [unchanged]
      simp [lastGood, Visit.succeeded, result, Except.toOption]
  · rw [Visit.make_frame holder participant encounter state (Ne.symm own)]
    simp [lastGood, own]

def CrawlSummary.note (summary : CrawlSummary) (visit : Visit cache) : CrawlSummary where
  attempted := summary.attempted + 1
  succeeded := if visit.succeeded then summary.succeeded + 1 else summary.succeeded
  failed := if visit.succeeded then summary.failed else summary.failed + 1
  failures := summary.failures ++ visit.failure.toList

theorem crawlFrom_cons (participant : ParticipantEntry) (rest : List ParticipantEntry)
    (encounters : Nat → Encounter cache) (summary : CrawlSummary) (state : cache.State) :
    crawlFrom holder (participant :: rest) encounters summary state =
      crawlFrom holder rest (fun index => encounters (index + 1))
        (summary.note (Visit.make holder participant (encounters 0) state).1)
        (Visit.make holder participant (encounters 0) state).2 := by
  cases fetched : crawlOne (encounters 0).world participant holder with
  | error error =>
      simp [crawlFrom, Visit.make, fetched, CrawlSummary.note, Visit.succeeded, Visit.failure,
        Except.toOption]
  | ok catalog =>
      cases upserted : (cache.upsert (encounters 0).choice state catalog).1 <;>
        simp [crawlFrom, Visit.make, fetched, upserted, CrawlSummary.note, Visit.succeeded,
          Visit.failure, Except.toOption]

theorem content_crawlFrom (participants : List ParticipantEntry)
    (encounters : Nat → Encounter cache) (summary : CrawlSummary) (state : cache.State)
    (node : NodeId) :
    cache.content (crawlFrom holder participants encounters summary state).2 node =
      (lastGood (visits holder participants encounters state) node).or
        (cache.content state node) := by
  induction participants generalizing encounters summary state with
  | nil => rfl
  | cons participant rest inductionHypothesis =>
      have split : visits holder (participant :: rest) encounters state =
          [(Visit.make holder participant (encounters 0) state).1] ++
            visits holder rest (fun index => encounters (index + 1))
              (Visit.make holder participant (encounters 0) state).2 := rfl
      rw [crawlFrom_cons, inductionHypothesis, content_make, split, lastGood_append,
        Option.or_assoc]

theorem summary_crawlFrom (participants : List ParticipantEntry)
    (encounters : Nat → Encounter cache) (summary : CrawlSummary) (state : cache.State) :
    (crawlFrom holder participants encounters summary state).1 =
      (visits holder participants encounters state).foldl CrawlSummary.note summary := by
  induction participants generalizing encounters summary state with
  | nil => rfl
  | cons participant rest inductionHypothesis =>
      rw [crawlFrom_cons, inductionHypothesis]
      rfl

theorem CrawlSummary.summarizes (log : List (Visit cache)) :
    Summarizes (log.foldl CrawlSummary.note .default) log := by
  induction log using List.reverseRecOn with
  | nil => exact ⟨rfl, rfl, rfl, rfl⟩
  | append_singleton log visit inductionHypothesis =>
      obtain ⟨attempted, balanced, succeeded, failures⟩ := inductionHypothesis
      rw [List.foldl_append, List.foldl_cons, List.foldl_nil]
      constructor
      · simp [CrawlSummary.note, attempted]
      · by_cases good : visit.succeeded = true
        · simp [CrawlSummary.note, good, balanced]
          omega
        · simp [CrawlSummary.note, good, balanced]
          omega
      · by_cases good : visit.succeeded = true <;>
          simp [CrawlSummary.note, good, succeeded]
      · cases outcome : visit.failure <;>
          simp [CrawlSummary.note, outcome, failures]

theorem visits_participants (participants : List ParticipantEntry)
    (encounters : Nat → Encounter cache) (state : cache.State) :
    (visits holder participants encounters state).map Visit.participant = participants := by
  induction participants generalizing encounters state with
  | nil => rfl
  | cons participant rest inductionHypothesis => simp [visits, inductionHypothesis]

theorem visits_get (participants : List ParticipantEntry)
    (encounters : Nat → Encounter cache) (state : cache.State) {index : Nat} {visit : Visit cache}
    (made : (visits holder participants encounters state)[index]? = some visit) :
    visit.encounter = encounters index ∧ visit.Faithful holder := by
  induction participants generalizing encounters state index with
  | nil => simp [visits] at made
  | cons participant rest inductionHypothesis =>
      cases index with
      | zero =>
          rw [visits, List.getElem?_cons_zero] at made
          cases made
          exact ⟨Visit.make_encounter holder participant (encounters 0) state,
            Visit.make_faithful holder participant (encounters 0) state⟩
      | succ index =>
          rw [visits, List.getElem?_cons_succ] at made
          exact inductionHypothesis (fun index => encounters (index + 1)) _ made

theorem visit_at {participants : List ParticipantEntry} (encounters : Nat → Encounter cache)
    (state : cache.State) {index : Nat} {participant : ParticipantEntry}
    (listed : participants[index]? = some participant) :
    ∃ visit, (visits holder participants encounters state)[index]? = some visit ∧
      visit.participant = participant ∧ visit.encounter = encounters index ∧
      visit.Faithful holder := by
  have visited := visits_participants holder participants encounters state
  have mapped := List.getElem?_map (f := Visit.participant)
    (l := visits holder participants encounters state) (i := index)
  rw [visited, listed] at mapped
  obtain ⟨visit, made, same⟩ := Option.map_eq_some_iff.mp mapped.symm
  have ⟨encounter, faithful⟩ := visits_get holder participants encounters state made
  exact ⟨visit, made, same, encounter, faithful⟩

theorem content_afterCycles (participants : List ParticipantEntry)
    (encounters : Nat → Nat → Encounter cache) (initial : cache.State) (cycle : Nat)
    (node : NodeId) :
    cache.content (afterCycles holder participants encounters initial cycle) node =
      (lastGood (history holder participants encounters initial cycle) node).or
        (cache.content initial node) := by
  induction cycle with
  | zero => rfl
  | succ cycle inductionHypothesis =>
      rw [afterCycles, crawlOnce, content_crawlFrom, inductionHypothesis, history,
        lastGood_append, Option.or_assoc]

/-- Cycles that report their visits truthfully and keep the last good catalog of each node. -/
structure KeepsLastGood (participants : List ParticipantEntry)
    (encounters : Nat → Nat → Encounter cache) (initial : cache.State) : Prop where
  everyone : ∀ cycle, (visits holder participants (encounters cycle)
    (afterCycles holder participants encounters initial cycle)).map Visit.participant =
      participants
  faithful : ∀ cycle index visit, (visits holder participants (encounters cycle)
    (afterCycles holder participants encounters initial cycle))[index]? = some visit →
      visit.encounter = encounters cycle index ∧ visit.Faithful holder
  summarized : ∀ cycle, Summarizes
    (crawlOnce holder participants (encounters cycle)
      (afterCycles holder participants encounters initial cycle)).1
    (visits holder participants (encounters cycle)
      (afterCycles holder participants encounters initial cycle))
  entries : ∀ cycle node,
    cache.content (afterCycles holder participants encounters initial cycle) node =
      (lastGood (history holder participants encounters initial cycle) node).or
        (cache.content initial node)

theorem crawling_keeps_last_good (participants : List ParticipantEntry)
    (encounters : Nat → Nat → Encounter cache) (initial : cache.State) :
    KeepsLastGood holder participants encounters initial where
  everyone cycle := visits_participants holder participants (encounters cycle) _
  faithful _ _ _ made := visits_get holder participants _ _ made
  summarized cycle := by
    rw [crawlOnce, summary_crawlFrom]
    exact CrawlSummary.summarizes _
  entries := content_afterCycles holder participants encounters initial

end FederatedCatalog.Crawler
