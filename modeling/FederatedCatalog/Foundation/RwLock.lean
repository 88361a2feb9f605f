import FederatedCatalog.Foundation.Interleaving
import Mathlib.Data.Finset.Basic

/-!
# Critical sections under a reader-writer lock

Threads run programs over a shared object, each inside one critical section.
Sections that only read may overlap, the others exclude each other and all
readers.  Whatever the interleaving of the single calls, each section has the
result that it would have had at once, in the order in which they return.
-/

namespace FederatedCatalog.Foundation

section Parts

variable {State Choice Call Result : Type} {Reply : Call → Type}

/-- Some calls of a program lead from one program and state to another. -/
inductive Runs (perform : Choice → State → (request : Call) → Reply request × State)
    (program : Program Call Reply Result) (state : State) :
    Program Call Reply Result → State → Prop
  | refl : Runs perform program state program state
  | step {request : Call} {next : Reply request → Program Call Reply Result} {reached : State}
      (before : Runs perform program state (.call request next) reached) (choice : Choice) :
      Runs perform program state (next (perform choice reached request).1)
        (perform choice reached request).2

variable {perform : Choice → State → (request : Call) → Reply request × State}
  {program rest : Program Call Reply Result} {state reached : State}

theorem Runs.finish (runs : Runs perform program state rest reached) (later : Nat → Choice) :
    ∃ choices : Nat → Choice, program.run perform choices state = rest.run perform later reached := by
  induction runs generalizing later with
  | refl => exact ⟨later, rfl⟩
  | step before choice inductionHypothesis =>
      obtain ⟨choices, same⟩ := inductionHypothesis fun index => index.casesOn choice later
      exact ⟨choices, same⟩

end Parts

inductive LockMode where
  | shared
  | exclusive
  deriving DecidableEq

inductive Phase (Call : Type) (Reply : Call → Type) (Job Result : Type) where
  | waiting (job : Job)
  | holding (job : Job) (program : Program Call Reply Result)
  | returned (job : Job) (result : Result)

structure Locked (State : Type) (Call : Type) (Reply : Call → Type) (Thread Job Result : Type) where
  object : State
  readers : Finset Thread
  writer : Option Thread
  threads : Thread → Option (Phase Call Reply Job Result)
  /-- What has returned so far, in order. -/
  log : List (Thread × Job × Result)

inductive LockEvent (Choice Thread Job : Type) where
  | call (thread : Thread) (job : Job)
  | acquire (thread : Thread)
  | advance (thread : Thread) (choice : Choice)
  | release (thread : Thread)

namespace Locked

variable {State Choice Call Thread Job Result : Type} {Reply : Call → Type} [DecidableEq Thread]

def idle (object : State) : Locked State Call Reply Thread Job Result :=
  ⟨object, ∅, none, fun _ => none, []⟩

def assign (pool : Locked State Call Reply Thread Job Result) (thread : Thread)
    (phase : Phase Call Reply Job Result) : Locked State Call Reply Thread Job Result :=
  { pool with threads := Function.update pool.threads thread (some phase) }

def acquire (pool : Locked State Call Reply Thread Job Result) (thread : Thread) :
    LockMode → Option (Locked State Call Reply Thread Job Result)
  | .shared =>
      if pool.writer = none then some { pool with readers := insert thread pool.readers } else none
  | .exclusive =>
      if pool.writer = none ∧ pool.readers = ∅ then some { pool with writer := some thread }
      else none

def release (pool : Locked State Call Reply Thread Job Result) (thread : Thread) :
    LockMode → Locked State Call Reply Thread Job Result
  | .shared => { pool with readers := pool.readers.erase thread }
  | .exclusive => { pool with writer := none }

variable (perform : Choice → State → (request : Call) → Reply request × State)
  (mode : Job → LockMode) (body : Job → Program Call Reply Result)

def step (pool : Locked State Call Reply Thread Job Result) :
    LockEvent Choice Thread Job → Option (Locked State Call Reply Thread Job Result)
  | .call thread job =>
      match pool.threads thread with
      | none => some (pool.assign thread (.waiting job))
      | some _ => none
  | .acquire thread =>
      match pool.threads thread with
      | some (.waiting job) =>
          (pool.acquire thread (mode job)).map (·.assign thread (.holding job (body job)))
      | _ => none
  | .advance thread choice =>
      match pool.threads thread with
      | some (.holding job (.call request next)) =>
          let answered := perform choice pool.object request
          some ({ pool with object := answered.2 }.assign thread (.holding job (next answered.1)))
      | _ => none
  | .release thread =>
      match pool.threads thread with
      | some (.holding job (.done result)) =>
          some ({ pool.release thread (mode job) with
            log := pool.log ++ [(thread, job, result)] }.assign thread (.returned job result))
      | _ => none

inductive Step (pool : Locked State Call Reply Thread Job Result) :
    LockEvent Choice Thread Job → Locked State Call Reply Thread Job Result → Prop
  | call {thread job} (fresh : pool.threads thread = none) :
      Step pool (.call thread job) (pool.assign thread (.waiting job))
  | read {thread job} (waiting : pool.threads thread = some (.waiting job))
      (mode_eq : mode job = .shared) (unwritten : pool.writer = none) :
      Step pool (.acquire thread) ({ pool with readers := insert thread pool.readers }.assign thread
        (.holding job (body job)))
  | write {thread job} (waiting : pool.threads thread = some (.waiting job))
      (mode_eq : mode job = .exclusive) (unwritten : pool.writer = none)
      (unread : pool.readers = ∅) :
      Step pool (.acquire thread) ({ pool with writer := some thread }.assign thread
        (.holding job (body job)))
  | advance {thread choice job request next}
      (holding : pool.threads thread = some (.holding job (.call request next))) :
      Step pool (.advance thread choice)
        ({ pool with object := (perform choice pool.object request).2 }.assign thread
          (.holding job (next (perform choice pool.object request).1)))
  | release {thread job result} (holding : pool.threads thread = some (.holding job (.done result))) :
      Step pool (.release thread) ({ pool.release thread (mode job) with
        log := pool.log ++ [(thread, job, result)] }.assign thread (.returned job result))

theorem step_cases {pool next : Locked State Call Reply Thread Job Result}
    {event : LockEvent Choice Thread Job}
    (stepped : pool.step perform mode body event = some next) :
    Step perform mode body pool event next := by
  cases event with
  | call thread job =>
      simp only [step] at stepped
      split at stepped
      · next fresh =>
        cases stepped
        exact .call fresh
      · cases stepped
  | acquire thread =>
      simp only [step] at stepped
      split at stepped
      · next job waiting =>
        cases mode_eq : mode job with
        | shared =>
            simp only [acquire, mode_eq] at stepped
            split at stepped
            · next unwritten =>
              cases stepped
              exact .read waiting mode_eq unwritten
            · cases stepped
        | exclusive =>
            simp only [acquire, mode_eq] at stepped
            split at stepped
            · next free =>
              cases stepped
              exact .write waiting mode_eq free.1 free.2
            · cases stepped
      · cases stepped
  | advance thread choice =>
      simp only [step] at stepped
      split at stepped
      · next holding =>
        cases stepped
        exact .advance holding
      · cases stepped
  | release thread =>
      simp only [step] at stepped
      split at stepped
      · next holding =>
        cases stepped
        exact .release holding
      · cases stepped

theorem assign_cases {pool : Locked State Call Reply Thread Job Result} {thread other : Thread}
    {phase found : Phase Call Reply Job Result}
    (running : (pool.assign thread phase).threads other = some found) :
    (other = thread ∧ found = phase) ∨ (other ≠ thread ∧ pool.threads other = some found) := by
  by_cases same : other = thread
  · subst same
    simp only [assign, Function.update_self] at running
    exact .inl ⟨rfl, (Option.some.inj running).symm⟩
  · simp only [assign, Function.update_of_ne same] at running
    exact .inr ⟨same, running⟩

theorem assign_same (pool : Locked State Call Reply Thread Job Result) (thread : Thread)
    (phase : Phase Call Reply Job Result) :
    (pool.assign thread phase).threads thread = some phase := by
  simp [assign]

theorem assign_other (pool : Locked State Call Reply Thread Job Result) {thread other : Thread}
    (phase : Phase Call Reply Job Result) (different : other ≠ thread) :
    (pool.assign thread phase).threads other = pool.threads other := by
  simp [assign, different]

/-! ## What the lock guarantees -/

/-- Whole sections, one after the other, with their results. -/
inductive Serial (initial : State) : List (Thread × Job × Result) → State → Prop
  | nil : Serial initial [] initial
  | snoc {log : List (Thread × Job × Result)} {state after : State}
      (before : Serial initial log state) (thread : Thread) {job : Job} {result : Result}
      {choices : Nat → Choice} (ran : (body job).run perform choices state = (result, after)) :
      Serial initial (log ++ [(thread, job, result)]) after

variable (reads : Call → Prop)

/-- Who holds the lock is noted in it; readers run where nothing changes, and a writer where
the last section left off. -/
structure Sound (initial : State) (pool : Locked State Call Reply Thread Job Result) : Prop where
  reader : ∀ thread job program, pool.threads thread = some (.holding job program) →
    mode job = .shared → thread ∈ pool.readers ∧ program.Calls reads ∧
      Runs perform (body job) pool.object program pool.object
  writer : ∀ thread job program, pool.threads thread = some (.holding job program) →
    mode job = .exclusive → pool.writer = some thread
  apart : pool.writer = none ∨ pool.readers = ∅
  settled : pool.writer = none → Serial perform body initial pool.log pool.object
  written : ∀ thread, pool.writer = some thread → ∃ job program base,
    pool.threads thread = some (.holding job program) ∧ mode job = .exclusive ∧
    Serial perform body initial pool.log base ∧ Runs perform (body job) base program pool.object

omit [DecidableEq Thread] in
theorem Sound.idle (initial : State) :
    Sound perform mode body reads initial
      (Locked.idle initial : Locked State Call Reply Thread Job Result) where
  reader := nofun
  writer := nofun
  apart := .inl rfl
  settled _ := .nil
  written := nofun

variable {perform mode body reads} {initial : State}
  {pool next : Locked State Call Reply Thread Job Result} {event : LockEvent Choice Thread Job}

namespace Sound

omit [DecidableEq Thread] in
theorem unwritten (sound : Sound perform mode body reads initial pool) {thread : Thread}
    {job : Job} {program : Program Call Reply Result}
    (holding : pool.threads thread = some (.holding job program)) (shared : mode job = .shared) :
    pool.writer = none := by
  rcases sound.apart with none | unread
  · exact none
  · have reader := (sound.reader thread job program holding shared).1
    rw [unread] at reader
    cases reader

omit [DecidableEq Thread] in
theorem alone (sound : Sound perform mode body reads initial pool) {thread other : Thread}
    {job otherJob : Job} {program otherProgram : Program Call Reply Result}
    (holding : pool.threads thread = some (.holding job program)) (exclusive : mode job = .exclusive)
    (also : pool.threads other = some (.holding otherJob otherProgram)) : other = thread := by
  have writes := sound.writer thread job program holding exclusive
  cases otherMode : mode otherJob with
  | shared => cases writes.symm.trans (sound.unwritten also otherMode)
  | exclusive =>
      exact Option.some.inj ((sound.writer other otherJob otherProgram also otherMode).symm.trans
        writes)

variable {thread : Thread} {job : Job} {result : Result}

theorem call (sound : Sound perform mode body reads initial pool)
    (fresh : pool.threads thread = none) (job : Job) :
    Sound perform mode body reads initial (pool.assign thread (.waiting job)) where
  reader := by
    intro other otherJob program holding
    rcases assign_cases holding with ⟨_, same⟩ | ⟨_, before⟩
    · cases same
    · exact sound.reader other otherJob program before
  writer := by
    intro other otherJob program holding
    rcases assign_cases holding with ⟨_, same⟩ | ⟨_, before⟩
    · cases same
    · exact sound.writer other otherJob program before
  apart := sound.apart
  settled := sound.settled
  written := by
    intro writing writes
    obtain ⟨otherJob, program, base, holding, found⟩ := sound.written writing writes
    have different : writing ≠ thread := by
      rintro rfl
      cases fresh.symm.trans holding
    exact ⟨otherJob, program, base, (assign_other pool _ different).trans holding, found⟩

theorem read (calls : ∀ job, mode job = .shared → (body job).Calls reads)
    (sound : Sound perform mode body reads initial pool) (shared : mode job = .shared)
    (unwritten : pool.writer = none) (thread : Thread) :
    Sound perform mode body reads initial
      ({ pool with readers := insert thread pool.readers }.assign thread
        (.holding job (body job))) where
  reader := by
    intro other otherJob program holding otherShared
    rcases assign_cases holding with ⟨rfl, same⟩ | ⟨_, before⟩
    · cases same
      exact ⟨Finset.mem_insert_self _ _, calls job shared, .refl⟩
    · have ⟨reader, rest⟩ := sound.reader other otherJob program before otherShared
      exact ⟨Finset.mem_insert_of_mem reader, rest⟩
  writer := by
    intro other otherJob program holding exclusive
    rcases assign_cases holding with ⟨_, same⟩ | ⟨_, before⟩
    · cases same
      cases shared.symm.trans exclusive
    · exact sound.writer other otherJob program before exclusive
  apart := .inl unwritten
  settled := sound.settled
  written := by
    intro writing writes
    cases unwritten.symm.trans writes

theorem write (sound : Sound perform mode body reads initial pool)
    (exclusive : mode job = .exclusive) (unwritten : pool.writer = none)
    (unread : pool.readers = ∅) (thread : Thread) :
    Sound perform mode body reads initial
      ({ pool with writer := some thread }.assign thread (.holding job (body job))) where
  reader := by
    intro other otherJob program holding shared
    rcases assign_cases holding with ⟨_, same⟩ | ⟨_, before⟩
    · cases same
      cases shared.symm.trans exclusive
    · have reader := (sound.reader other otherJob program before shared).1
      rw [unread] at reader
      cases reader
  writer := by
    intro other otherJob program holding otherExclusive
    rcases assign_cases holding with ⟨rfl, _⟩ | ⟨_, before⟩
    · rfl
    · cases unwritten.symm.trans (sound.writer other otherJob program before otherExclusive)
  apart := .inr unread
  settled := nofun
  written := by
    intro writing writes
    cases writes
    exact ⟨job, body job, pool.object, assign_same _ _ _, exclusive, sound.settled unwritten, .refl⟩

variable {request : Call} {rest : Reply request → Program Call Reply Result}

theorem advance_reader
    (unchanged : ∀ request, reads request → ∀ choice state, (perform choice state request).2 = state)
    (sound : Sound perform mode body reads initial pool) (shared : mode job = .shared)
    (holding : pool.threads thread = some (.holding job (.call request rest))) (choice : Choice) :
    Sound perform mode body reads initial
      ({ pool with object := (perform choice pool.object request).2 }.assign thread
        (.holding job (rest (perform choice pool.object request).1))) := by
  have ⟨reader, remaining, runs⟩ := sound.reader thread job _ holding shared
  have unwritten := sound.unwritten holding shared
  cases remaining with
  | call _ _ permitted later =>
      have same := unchanged request permitted choice pool.object
      have further := runs.step choice
      rw [same] at further ⊢
      refine ⟨?_, ?_, sound.apart, sound.settled, ?_⟩
      · intro other otherJob program otherHolding otherShared
        rcases assign_cases otherHolding with ⟨rfl, found⟩ | ⟨_, before⟩
        · cases found
          exact ⟨reader, later _, further⟩
        · exact sound.reader other otherJob program before otherShared
      · intro other otherJob program otherHolding exclusive
        rcases assign_cases otherHolding with ⟨_, found⟩ | ⟨_, before⟩
        · cases found
          cases shared.symm.trans exclusive
        · exact sound.writer other otherJob program before exclusive
      · intro writing writes
        cases unwritten.symm.trans writes

theorem advance_writer (sound : Sound perform mode body reads initial pool)
    (exclusive : mode job = .exclusive)
    (holding : pool.threads thread = some (.holding job (.call request rest))) (choice : Choice) :
    Sound perform mode body reads initial
      ({ pool with object := (perform choice pool.object request).2 }.assign thread
        (.holding job (rest (perform choice pool.object request).1))) := by
  have writes := sound.writer thread job _ holding exclusive
  refine ⟨?_, ?_, sound.apart, ?_, ?_⟩
  · intro other otherJob program otherHolding shared
    rcases assign_cases otherHolding with ⟨_, found⟩ | ⟨different, before⟩
    · cases found
      cases exclusive.symm.trans shared
    · exact absurd (sound.alone holding exclusive before) different
  · intro other otherJob program otherHolding otherExclusive
    rcases assign_cases otherHolding with ⟨rfl, _⟩ | ⟨_, before⟩
    · exact writes
    · exact sound.writer other otherJob program before otherExclusive
  · intro unwritten
    cases writes.symm.trans unwritten
  · intro writing writesNow
    cases writes.symm.trans writesNow
    obtain ⟨_, _, base, found, _, serial, runs⟩ := sound.written thread writes
    cases holding.symm.trans found
    exact ⟨job, _, base, assign_same _ _ _, exclusive, serial, runs.step choice⟩

omit [DecidableEq Thread] in
/-- A section that is done could have run at once. -/
theorem returns [Nonempty Choice] {base : State} (serial : Serial perform body initial pool.log base)
    (runs : Runs perform (body job) base (.done result) pool.object) (thread : Thread) :
    Serial perform body initial (pool.log ++ [(thread, job, result)]) pool.object := by
  obtain ⟨choice⟩ := ‹Nonempty Choice›
  obtain ⟨choices, ran⟩ := runs.finish fun _ => choice
  exact serial.snoc thread ran

theorem release_reader [Nonempty Choice] (sound : Sound perform mode body reads initial pool)
    (shared : mode job = .shared)
    (holding : pool.threads thread = some (.holding job (.done result))) :
    Sound perform mode body reads initial
      ({ pool with
        readers := pool.readers.erase thread
        log := pool.log ++ [(thread, job, result)] }.assign thread (.returned job result)) := by
  have unwritten := sound.unwritten holding shared
  have runs := (sound.reader thread job _ holding shared).2.2
  refine ⟨?_, ?_, .inl unwritten, fun _ => returns (sound.settled unwritten) runs thread, ?_⟩
  · intro other otherJob program otherHolding otherShared
    rcases assign_cases otherHolding with ⟨_, found⟩ | ⟨different, before⟩
    · cases found
    · have ⟨reader, further⟩ := sound.reader other otherJob program before otherShared
      exact ⟨Finset.mem_erase.mpr ⟨different, reader⟩, further⟩
  · intro other otherJob program otherHolding exclusive
    rcases assign_cases otherHolding with ⟨_, found⟩ | ⟨_, before⟩
    · cases found
    · exact sound.writer other otherJob program before exclusive
  · intro writing writes
    cases unwritten.symm.trans writes

theorem release_writer [Nonempty Choice] (sound : Sound perform mode body reads initial pool)
    (exclusive : mode job = .exclusive)
    (holding : pool.threads thread = some (.holding job (.done result))) :
    Sound perform mode body reads initial
      ({ pool with
        writer := none
        log := pool.log ++ [(thread, job, result)] }.assign thread (.returned job result)) := by
  have writes := sound.writer thread job _ holding exclusive
  obtain ⟨_, _, base, found, _, serial, runs⟩ := sound.written thread writes
  cases holding.symm.trans found
  refine ⟨?_, ?_, .inl rfl, fun _ => returns serial runs thread, nofun⟩
  · intro other otherJob program otherHolding _
    rcases assign_cases otherHolding with ⟨_, found⟩ | ⟨different, before⟩
    · cases found
    · exact absurd (sound.alone holding exclusive before) different
  · intro other otherJob program otherHolding _
    rcases assign_cases otherHolding with ⟨_, found⟩ | ⟨different, before⟩
    · cases found
    · exact absurd (sound.alone holding exclusive before) different

end Sound

theorem Sound.step [Nonempty Choice]
    (calls : ∀ job, mode job = .shared → (body job).Calls reads)
    (unchanged : ∀ request, reads request → ∀ choice state, (perform choice state request).2 = state)
    (sound : Sound perform mode body reads initial pool)
    (stepped : Step perform mode body pool event next) :
    Sound perform mode body reads initial next := by
  cases stepped with
  | call fresh => exact sound.call fresh _
  | read _ shared unwritten => exact sound.read calls shared unwritten _
  | write _ exclusive unwritten unread => exact sound.write exclusive unwritten unread _
  | @advance thread choice job _ _ holding =>
      cases modeOf : mode job with
      | shared => exact sound.advance_reader unchanged modeOf holding choice
      | exclusive => exact sound.advance_writer modeOf holding choice
  | @release thread job _ holding =>
      cases modeOf : mode job with
      | shared => exact sound.release_reader modeOf holding
      | exclusive => exact sound.release_writer modeOf holding

/-- A thread is in the log, once, exactly when it has returned. -/
structure Logged (pool : Locked State Call Reply Thread Job Result) : Prop where
  returned : ∀ thread job result, (thread, job, result) ∈ pool.log ↔
    pool.threads thread = some (.returned job result)
  once : (pool.log.map Prod.fst).Nodup

omit [DecidableEq Thread] in
theorem Logged.absent (logged : Logged pool) {thread : Thread}
    (running : ∀ job result, pool.threads thread ≠ some (.returned job result)) :
    ∀ job result, (thread, job, result) ∉ pool.log :=
  fun job result listed => running job result ((logged.returned thread job result).mp listed)

theorem Logged.goes_on (logged : Logged pool) {thread : Thread}
    {phase : Phase Call Reply Job Result}
    (running : ∀ job result, pool.threads thread ≠ some (.returned job result))
    (goes : ∀ job result, phase ≠ .returned job result) : Logged (pool.assign thread phase) where
  once := logged.once
  returned := by
    intro other job result
    by_cases same : other = thread
    · subst same
      rw [assign_same]
      apply iff_of_false (logged.absent running job result)
      intro returned
      exact goes job result (Option.some.inj returned)
    · rw [assign_other pool phase same]
      exact logged.returned other job result

theorem Logged.step (logged : Logged pool) (stepped : Step perform mode body pool event next) :
    Logged next ∧ pool.log <+: next.log := by
  cases stepped with
  | @call thread job fresh =>
      refine ⟨logged.goes_on ?_ nofun, List.prefix_refl _⟩
      intro job result returned
      cases fresh.symm.trans returned
  | @read thread job waiting _ _ =>
      have kept : Logged { pool with readers := insert thread pool.readers } :=
        ⟨logged.returned, logged.once⟩
      refine ⟨kept.goes_on ?_ nofun, List.prefix_refl _⟩
      intro job result returned
      cases waiting.symm.trans returned
  | @write thread job waiting _ _ _ =>
      have kept : Logged { pool with writer := some thread } := ⟨logged.returned, logged.once⟩
      refine ⟨kept.goes_on ?_ nofun, List.prefix_refl _⟩
      intro job result returned
      cases waiting.symm.trans returned
  | @advance thread choice job request rest holding =>
      have kept : Logged { pool with object := (perform choice pool.object request).2 } :=
        ⟨logged.returned, logged.once⟩
      refine ⟨kept.goes_on ?_ nofun, List.prefix_refl _⟩
      intro job result returned
      cases holding.symm.trans returned
  | @release thread job result holding =>
      have absent : ∀ job result, (thread, job, result) ∉ pool.log := by
        apply logged.absent
        intro job result returned
        cases holding.symm.trans returned
      refine ⟨⟨?_, ?_⟩, List.prefix_append _ _⟩
      · intro other otherJob otherResult
        by_cases same : other = thread
        · subst same
          rw [assign_same]
          simp [assign, absent, eq_comm]
        · rw [assign_other _ _ same]
          have unreleased : (pool.release thread (mode job)).threads = pool.threads := by
            cases mode job <;> rfl
          simp [assign, same, logged.returned, unreleased]
      · simp only [assign, List.map_append, List.map_cons, List.map_nil]
        apply List.nodup_append.mpr
        refine ⟨logged.once, List.nodup_singleton _, ?_⟩
        intro other listed this single same
        obtain ⟨⟨_, otherJob, otherResult⟩, inLog, rfl⟩ := List.mem_map.mp listed
        rw [List.mem_singleton.mp single] at same
        exact absent otherJob otherResult (same ▸ inLog)

theorem logged_throughout
    (execution : Execution
      (fun pool : Locked State Call Reply Thread Job Result => pool.step perform mode body))
    (start : execution.state 0 = idle initial) :
    ∀ index, index ≤ execution.events.length → Logged (execution.state index) := by
  apply execution.invariant fun _ pool => Logged pool
  · rw [start]
    exact ⟨fun _ _ _ => iff_of_false List.not_mem_nil nofun, List.nodup_nil⟩
  · intro index event _ stepped logged
    exact (logged.step (step_cases perform mode body stepped)).1

/-- The log only grows, so that what has returned comes before what is called later. -/
theorem log_grows
    (execution : Execution
      (fun pool : Locked State Call Reply Thread Job Result => pool.step perform mode body))
    (start : execution.state 0 = idle initial) (earlier : Nat) :
    ∀ index, earlier ≤ index → index ≤ execution.events.length →
      (execution.state earlier).log <+: (execution.state index).log := by
  apply execution.invariant_from (fun _ pool => (execution.state earlier).log <+: pool.log) earlier
    (List.prefix_refl _)
  intro index event _ occurs stepped grown
  have bounded := (List.getElem?_eq_some_iff.mp occurs).1
  have logged := logged_throughout execution start index (by omega)
  exact grown.trans (logged.step (step_cases perform mode body stepped)).2

theorem sound_throughout [Nonempty Choice]
    (calls : ∀ job, mode job = .shared → (body job).Calls reads)
    (unchanged : ∀ request, reads request → ∀ choice state, (perform choice state request).2 = state)
    (execution : Execution
      (fun pool : Locked State Call Reply Thread Job Result => pool.step perform mode body))
    (start : execution.state 0 = idle initial) :
    ∀ index, index ≤ execution.events.length →
      Sound perform mode body reads initial (execution.state index) := by
  apply execution.invariant fun _ pool => Sound perform mode body reads initial pool
  · rw [start]
    exact .idle perform mode body reads initial
  · intro index event _ stepped sound
    exact sound.step calls unchanged (step_cases perform mode body stepped)

end Locked

end FederatedCatalog.Foundation
