import FederatedCatalog.Foundation.Program
import Mathlib.Data.List.Basic
import Mathlib.Order.Basic
import Mathlib.Data.Nat.Init

/-!
# Interleaved programs

A `Pool` executes any number of programs against one shared state, one atomic
call at a time and in any order.  An `Execution` is a finite sequence of
events with the states between them; facts about all its states follow from
what one event preserves.
-/

namespace FederatedCatalog.Foundation

structure Execution {State Event : Type} (step : State → Event → Option State) where
  events : List Event
  state : Nat → State
  steps : ∀ index event, events[index]? = some event →
    step (state index) event = some (state (index + 1))

namespace Execution

variable {State Event : Type} {step : State → Event → Option State}

theorem invariant_from (execution : Execution step) (property : Nat → State → Prop) (first : Nat)
    (initially : property first (execution.state first))
    (preserved : ∀ index event, first ≤ index → execution.events[index]? = some event →
      step (execution.state index) event = some (execution.state (index + 1)) →
      property index (execution.state index) →
      property (index + 1) (execution.state (index + 1))) :
    ∀ index, first ≤ index → index ≤ execution.events.length →
      property index (execution.state index) := by
  intro index later
  induction index, later using Nat.le_induction with
  | base => exact fun _ => initially
  | succ index later inductionHypothesis =>
      intro bounded
      have occurs := List.getElem?_eq_getElem (l := execution.events) (i := index) (by omega)
      exact preserved index _ later occurs (execution.steps index _ occurs)
        (inductionHypothesis (by omega))

theorem invariant (execution : Execution step) (property : Nat → State → Prop)
    (initially : property 0 (execution.state 0))
    (preserved : ∀ index event, execution.events[index]? = some event →
      step (execution.state index) event = some (execution.state (index + 1)) →
      property index (execution.state index) →
      property (index + 1) (execution.state (index + 1))) :
    ∀ index, index ≤ execution.events.length → property index (execution.state index) := by
  intro index bounded
  refine execution.invariant_from property 0 initially ?_ index (Nat.zero_le index) bounded
  intro reached event _ occurs stepped holds
  exact preserved reached event occurs stepped holds

def ofEvents (start : State) (events : List Event)
    (possible : (events.foldlM step start).isSome) : Execution step where
  events := events
  state index := ((events.take index).foldlM step start).getD start
  steps := by
    intro index event occurs
    obtain ⟨bounded, rfl⟩ := List.getElem?_eq_some_iff.mp occurs
    have longer : events.take (index + 1) = events.take index ++ [events[index]] :=
      (List.take_append_getElem bounded).symm
    have reachable : ((events.take (index + 1)).foldlM step start).isSome := by
      rw [← List.take_append_drop (index + 1) events, List.foldlM_append] at possible
      cases reached : (events.take (index + 1)).foldlM step start with
      | none => simp [reached] at possible
      | some state => rfl
    rw [longer, List.foldlM_append] at reachable ⊢
    cases reached : (events.take index).foldlM step start with
    | none => simp [reached] at reachable
    | some state =>
        cases next : step state events[index] with
        | none => simp [reached, next] at reachable
        | some following => simp [next]

end Execution

/-- A program under way: the job it was started for, the replies it has had so
far, and what is left to do. -/
structure Task (Call : Type) (Reply : Call → Type) (Job Result : Type) where
  job : Job
  transcript : List (Σ request : Call, Reply request)
  program : Program Call Reply Result

structure Pool (State : Type) (Call : Type) (Reply : Call → Type) (Thread Job Result : Type) where
  shared : State
  threads : Thread → Option (Task Call Reply Job Result)

inductive PoolEvent (Choice Thread Job : Type) where
  | start (thread : Thread) (job : Job)
  | advance (thread : Thread) (choice : Choice)

def PoolEvent.started {Choice Thread Job : Type} : PoolEvent Choice Thread Job → Option Thread
  | .start thread _ => some thread
  | .advance _ _ => none

namespace Pool

variable {State Choice Call Thread Job Result : Type} {Reply : Call → Type} [DecidableEq Thread]

def idle (shared : State) : Pool State Call Reply Thread Job Result := ⟨shared, fun _ => none⟩

def assign (pool : Pool State Call Reply Thread Job Result) (shared : State) (thread : Thread)
    (task : Task Call Reply Job Result) : Pool State Call Reply Thread Job Result where
  shared := shared
  threads := Function.update pool.threads thread (some task)

variable (pool : Pool State Call Reply Thread Job Result) (shared : State) (thread : Thread)
  (task : Task Call Reply Job Result)

@[simp]
theorem assign_shared : (pool.assign shared thread task).shared = shared := rfl

@[simp]
theorem assign_same : (pool.assign shared thread task).threads thread = some task := by
  simp [assign]

theorem assign_other {other : Thread} (different : other ≠ thread) :
    (pool.assign shared thread task).threads other = pool.threads other := by
  simp [assign, different]

theorem assign_cases {other : Thread} {found : Task Call Reply Job Result}
    (running : (pool.assign shared thread task).threads other = some found) :
    (other = thread ∧ found = task) ∨ (other ≠ thread ∧ pool.threads other = some found) := by
  by_cases same : other = thread
  · subst same
    rw [assign_same] at running
    exact .inl ⟨rfl, (Option.some.inj running).symm⟩
  · rw [assign_other _ _ _ _ same] at running
    exact .inr ⟨same, running⟩

variable (perform : Choice → State → (request : Call) → Reply request × State)
  (program : Job → Program Call Reply Result)

def step (pool : Pool State Call Reply Thread Job Result) :
    PoolEvent Choice Thread Job → Option (Pool State Call Reply Thread Job Result)
  | .start thread job =>
      match pool.threads thread with
      | none => some (pool.assign pool.shared thread ⟨job, [], program job⟩)
      | some _ => none
  | .advance thread choice =>
      match pool.threads thread with
      | some ⟨job, transcript, .call request next⟩ =>
          let answered := perform choice pool.shared request
          some (pool.assign answered.2 thread
            ⟨job, transcript ++ [⟨request, answered.1⟩], next answered.1⟩)
      | _ => none

/-- Everything one event can do. -/
inductive Step (pool : Pool State Call Reply Thread Job Result) :
    PoolEvent Choice Thread Job → Pool State Call Reply Thread Job Result → Prop
  | start {thread job} (fresh : pool.threads thread = none) :
      Step pool (.start thread job) (pool.assign pool.shared thread ⟨job, [], program job⟩)
  | advance {thread choice job transcript request next}
      (waiting : pool.threads thread = some ⟨job, transcript, .call request next⟩) :
      Step pool (.advance thread choice)
        (pool.assign (perform choice pool.shared request).2 thread
          ⟨job, transcript ++ [⟨request, (perform choice pool.shared request).1⟩],
            next (perform choice pool.shared request).1⟩)

theorem step_iff (pool next : Pool State Call Reply Thread Job Result)
    (event : PoolEvent Choice Thread Job) :
    pool.step perform program event = some next ↔ Step perform program pool event next := by
  constructor
  · intro stepped
    cases event with
    | start thread job =>
        simp only [step] at stepped
        split at stepped
        · next fresh =>
          cases stepped
          exact .start fresh
        · cases stepped
    | advance thread choice =>
        simp only [step] at stepped
        split at stepped
        · next waiting =>
          cases stepped
          exact .advance waiting
        · cases stepped
  · intro stepped
    cases stepped with
    | start fresh => simp [step, fresh]
    | advance waiting => simp [step, waiting]

theorem Step.keeps_done {perform : Choice → State → (request : Call) → Reply request × State}
    {program : Job → Program Call Reply Result}
    {pool next : Pool State Call Reply Thread Job Result} {event : PoolEvent Choice Thread Job}
    (stepped : Step perform program pool event next) {thread : Thread} {job : Job}
    {transcript : List (Σ request : Call, Reply request)} {result : Result}
    (returned : pool.threads thread = some ⟨job, transcript, .done result⟩) :
    next.threads thread = some ⟨job, transcript, .done result⟩ := by
  cases stepped with
  | @start started _ fresh =>
      have different : thread ≠ started := by
        rintro rfl
        rw [fresh] at returned
        cases returned
      rw [assign_other _ _ _ _ different, returned]
  | @advance advanced _ _ _ _ _ waiting =>
      have different : thread ≠ advanced := by
        rintro rfl
        rw [waiting] at returned
        cases returned
      rw [assign_other _ _ _ _ different, returned]

theorem started_of_running {perform : Choice → State → (request : Call) → Reply request × State}
    {program : Job → Program Call Reply Result}
    (execution : Execution
      (fun pool : Pool State Call Reply Thread Job Result => pool.step perform program))
    (idle : ∀ thread, (execution.state 0).threads thread = none) :
    ∀ index, index ≤ execution.events.length → ∀ thread task,
      (execution.state index).threads thread = some task →
      ∃ started, started < index ∧
        execution.events[started]? = some (.start thread task.job) := by
  apply execution.invariant fun index pool => ∀ thread task,
    pool.threads thread = some task → ∃ started, started < index ∧
      execution.events[started]? = some (.start thread task.job)
  · intro thread task running
    rw [idle] at running
    cases running
  · intro index event occurs stepped inductionHypothesis thread task running
    have possible := (step_iff _ _ _ _ _).mp stepped
    generalize execution.state (index + 1) = later at possible running
    cases possible with
    | start fresh =>
        rcases assign_cases _ _ _ _ running with ⟨rfl, rfl⟩ | ⟨_, before⟩
        · exact ⟨index, by omega, occurs⟩
        · obtain ⟨started, earlier, starts⟩ := inductionHypothesis thread task before
          exact ⟨started, by omega, starts⟩
    | advance waiting =>
        rcases assign_cases _ _ _ _ running with ⟨rfl, rfl⟩ | ⟨_, before⟩
        · obtain ⟨started, earlier, starts⟩ := inductionHypothesis thread _ waiting
          exact ⟨started, by omega, starts⟩
        · obtain ⟨started, earlier, starts⟩ := inductionHypothesis thread task before
          exact ⟨started, by omega, starts⟩

/-- The invariant rule: what every allowed call preserves holds throughout an execution of
programs whose calls are all allowed. -/
theorem shared_invariant {perform : Choice → State → (request : Call) → Reply request × State}
    {program : Job → Program Call Reply Result} {allowed : Call → Prop}
    (calls : ∀ job, (program job).Calls allowed) {invariant : State → Prop}
    (preserved : ∀ choice state request, allowed request → invariant state →
      invariant (perform choice state request).2)
    (execution : Execution
      (fun pool : Pool State Call Reply Thread Job Result => pool.step perform program))
    (idle : ∀ thread, (execution.state 0).threads thread = none)
    (initially : invariant (execution.state 0).shared) :
    ∀ index, index ≤ execution.events.length → invariant (execution.state index).shared := by
  have both := execution.invariant (fun _ pool => invariant pool.shared ∧
      ∀ thread task, pool.threads thread = some task → task.program.Calls allowed)
    ⟨initially, fun thread task running => by simp [idle] at running⟩ ?_
  · exact fun index bounded => (both index bounded).1
  · intro index event _ stepped ⟨holds, under⟩
    have possible := (step_iff _ _ _ _ _).mp stepped
    generalize execution.state (index + 1) = later at possible
    cases possible with
    | start fresh =>
        refine ⟨holds, ?_⟩
        intro thread task running
        rcases assign_cases _ _ _ _ running with ⟨_, rfl⟩ | ⟨_, before⟩
        · exact calls _
        · exact under thread task before
    | advance waiting =>
        cases under _ _ waiting with
        | call request next permitted remaining =>
            refine ⟨preserved _ _ _ permitted holds, ?_⟩
            intro thread task running
            rcases assign_cases _ _ _ _ running with ⟨_, rfl⟩ | ⟨_, before⟩
            · exact remaining _
            · exact under thread task before

theorem returned_from {perform : Choice → State → (request : Call) → Reply request × State}
    {program : Job → Program Call Reply Result}
    (execution : Execution
      (fun pool : Pool State Call Reply Thread Job Result => pool.step perform program))
    {first : Nat} {thread : Thread} {job : Job} {transcript : List (Σ request : Call, Reply request)}
    {result : Result}
    (returned : (execution.state first).threads thread = some ⟨job, transcript, .done result⟩) :
    ∀ index, first ≤ index → index ≤ execution.events.length →
      (execution.state index).threads thread = some ⟨job, transcript, .done result⟩ := by
  apply execution.invariant_from (fun _ pool =>
    pool.threads thread = some ⟨job, transcript, .done result⟩) first returned
  intro index event _ _ stepped holds
  exact ((step_iff _ _ _ _ _).mp stepped).keeps_done holds

end Pool

end FederatedCatalog.Foundation
