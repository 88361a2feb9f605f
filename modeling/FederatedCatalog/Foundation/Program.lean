import Mathlib.Logic.Function.Basic

/-!
# Programs over a shared object

Code that touches a shared object only through its atomic calls is a
`Program`: a tree of calls, each followed by a continuation of the reply.
`Program.run` executes one program alone; what the environment decides during
a call (an enumeration order, a fault) comes with the call.
-/

namespace FederatedCatalog.Foundation

universe u

/-- A computation whose only effects are atomic calls on a shared object. -/
inductive Program (Call : Type) (Reply : Call → Type) (Result : Type u) where
  | done (result : Result)
  | call (request : Call) (next : Reply request → Program Call Reply Result)

namespace Program

variable {Call : Type} {Reply : Call → Type} {First Second : Type}

def bind (program : Program Call Reply First) (next : First → Program Call Reply Second) :
    Program Call Reply Second :=
  match program with
  | .done result => next result
  | .call request continuation => .call request fun reply => (continuation reply).bind next

@[simp]
theorem bind_done (result : First) (next : First → Program Call Reply Second) :
    (done result : Program Call Reply First).bind next = next result := rfl

@[simp]
theorem bind_call (request : Call) (continuation : Reply request → Program Call Reply First)
    (next : First → Program Call Reply Second) :
    (call request continuation).bind next =
      call request fun reply => (continuation reply).bind next := rfl

theorem bind_assoc {Third : Type} (program : Program Call Reply First)
    (next : First → Program Call Reply Second) (last : Second → Program Call Reply Third) :
    (program.bind next).bind last = program.bind fun result => (next result).bind last := by
  induction program with
  | done result => rfl
  | call request continuation inductionHypothesis =>
      simp only [bind_call, inductionHypothesis]

def returned : Program Call Reply First → Bool
  | .done _ => true
  | .call _ _ => false

theorem returned_iff (program : Program Call Reply First) :
    program.returned = true ↔ ∃ result, program = .done result := by
  cases program <;> simp [returned]

variable {State Choice : Type}

/-- Execute a program alone.  `choices` is what the environment decides at
each successive call. -/
def run (perform : Choice → State → (request : Call) → Reply request × State)
    (choices : Nat → Choice) : Program Call Reply First → State → First × State
  | .done result, state => (result, state)
  | .call request next, state =>
      let answered := perform (choices 0) state request
      (next answered.1).run perform (fun index => choices (index + 1)) answered.2

variable (perform : Choice → State → (request : Call) → Reply request × State)

@[simp]
theorem run_done (choices : Nat → Choice) (result : First) (state : State) :
    (done result : Program Call Reply First).run perform choices state = (result, state) := rfl

@[simp]
theorem run_call (choices : Nat → Choice) (request : Call)
    (next : Reply request → Program Call Reply First) (state : State) :
    (call request next).run perform choices state =
      (next (perform (choices 0) state request).1).run perform
        (fun index => choices (index + 1)) (perform (choices 0) state request).2 := rfl

theorem run_bind_done (program : Program Call Reply First) (wrap : First → Second)
    (choices : Nat → Choice) (state : State) :
    (program.bind fun result => done (wrap result)).run perform choices state =
      (wrap (program.run perform choices state).1, (program.run perform choices state).2) := by
  induction program generalizing choices state with
  | done result => rfl
  | call request next inductionHypothesis => exact inductionHypothesis _ _ _

/-- All calls of the program are `allowed`, whatever the replies. -/
inductive Calls (allowed : Call → Prop) : Program Call Reply First → Prop
  | done (result : First) : Calls allowed (done result)
  | call (request : Call) (next : Reply request → Program Call Reply First)
      (permitted : allowed request) (later : ∀ reply, Calls allowed (next reply)) :
      Calls allowed (call request next)

theorem Calls.bind {allowed : Call → Prop} {program : Program Call Reply First}
    {next : First → Program Call Reply Second} (calls : program.Calls allowed)
    (later : ∀ result, (next result).Calls allowed) : (program.bind next).Calls allowed := by
  induction calls with
  | done result => exact later result
  | call request continuation permitted _ inductionHypothesis =>
      exact .call request _ permitted inductionHypothesis

theorem Calls.mono {allowed wider : Call → Prop} {program : Program Call Reply First}
    (calls : program.Calls allowed) (includes : ∀ request, allowed request → wider request) :
    program.Calls wider := by
  induction calls with
  | done result => exact .done result
  | call request next permitted _ inductionHypothesis =>
      exact .call request next (includes request permitted) inductionHypothesis

theorem Calls.unchanged {allowed : Call → Prop} {program : Program Call Reply First}
    (calls : program.Calls allowed)
    (reads : ∀ request, allowed request → ∀ choice state, (perform choice state request).2 = state)
    (choices : Nat → Choice) (state : State) : (program.run perform choices state).2 = state := by
  induction calls generalizing choices state with
  | done result => rfl
  | call request next permitted _ inductionHypothesis =>
      rw [run_call, inductionHypothesis, reads request permitted]

/-- A program cannot tell two related objects apart if none of its calls can.  The environment
answers for the second object with choices of its own. -/
theorem Calls.simulates {allowed : Call → Prop} {usual : Choice → Prop}
    {related : State → State → Prop}
    (step : ∀ request, allowed request → ∀ choice state other, usual choice → related state other →
      ∃ otherChoice, usual otherChoice ∧
        (perform choice state request).1 = (perform otherChoice other request).1 ∧
        related (perform choice state request).2 (perform otherChoice other request).2)
    {program : Program Call Reply First} (calls : program.Calls allowed) (choices : Nat → Choice)
    (steady : ∀ index, usual (choices index)) {state other : State} (alike : related state other) :
    ∃ otherChoices : Nat → Choice, (∀ index, usual (otherChoices index)) ∧
      (program.run perform choices state).1 = (program.run perform otherChoices other).1 ∧
      related (program.run perform choices state).2 (program.run perform otherChoices other).2 := by
  induction calls generalizing choices state other with
  | done result => exact ⟨choices, steady, rfl, alike⟩
  | call request next permitted _ inductionHypothesis =>
      obtain ⟨first, firstUsual, replied, kept⟩ :=
        step request permitted (choices 0) state other (steady 0) alike
      obtain ⟨later, laterUsual, same, related⟩ :=
        inductionHypothesis (perform (choices 0) state request).1 (fun index => choices (index + 1))
          (fun index => steady (index + 1)) kept
      refine ⟨fun index => index.casesOn first later, ?_, ?_⟩
      · intro index
        cases index with
        | zero => exact firstUsual
        | succ index => exact laterUsual index
      · rw [run_call]
        dsimp only
        rw [replied] at same related ⊢
        exact ⟨same, related⟩

section Failing

variable {Error : Type}

def proceed (program : Program Call Reply (Except Error First))
    (next : First → Program Call Reply (Except Error Second)) :
    Program Call Reply (Except Error Second) :=
  program.bind fun
    | .error error => .done (.error error)
    | .ok result => next result

@[simp]
theorem proceed_call (request : Call)
    (continuation : Reply request → Program Call Reply (Except Error First))
    (next : First → Program Call Reply (Except Error Second)) :
    (call request continuation).proceed next =
      call request fun reply => (continuation reply).proceed next := rfl

end Failing

/-- A call with the reply that it got. -/
abbrev Exchanged (Call : Type) (Reply : Call → Type) := (request : Call) × Reply request

/-- The result if every call is answered by a function. -/
def answered (answers : (request : Call) → Reply request) : Program Call Reply First → First
  | .done result => result
  | .call request next => (next (answers request)).answered answers

def transcript (answers : (request : Call) → Reply request) :
    Program Call Reply First → List (Exchanged Call Reply)
  | .done _ => []
  | .call request next => ⟨request, answers request⟩ :: (next (answers request)).transcript answers

end Program

end FederatedCatalog.Foundation
