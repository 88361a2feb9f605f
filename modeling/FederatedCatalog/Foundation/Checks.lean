import Mathlib.Logic.Basic

/-!
# Sequences of checks

Code that returns `Result<T, String>` is a chain of checks, each of which may
stop it with a message.  For every link there is one lemma saying when it lets
the chain go on, so that what an accepted input satisfies can be read off.
-/

namespace FederatedCatalog.Foundation

variable {Item Other : Type}

/-- `Option::ok_or`. -/
def okOr (item : Option Item) (message : String) : Except String Item :=
  match item with
  | some item => .ok item
  | none => .error message

/-- `Result::map_err`. -/
def mapErr (context : String → String) (result : Except String Item) : Except String Item :=
  match result with
  | .ok item => .ok item
  | .error message => .error (context message)

/-- Stop with `message` unless the condition holds. -/
def ensure (condition : Prop) [Decidable condition] (message : String) : Except String Unit :=
  if condition then .ok () else .error message

theorem error_of_never_ok {result : Except String Item} (never : ∀ item, result ≠ .ok item) :
    ∃ message, result = .error message := by
  cases result with
  | error message => exact ⟨message, rfl⟩
  | ok item => exact absurd rfl (never item)

theorem bind_eq_ok {first : Except String Item} {next : Item → Except String Other}
    {result : Other} :
    first >>= next = .ok result ↔ ∃ item, first = .ok item ∧ next item = .ok result := by
  cases first with
  | error message =>
      constructor
      · rintro ⟨⟩
      · rintro ⟨item, impossible, _⟩
        cases impossible
  | ok item =>
      constructor
      · exact fun rest => ⟨item, rfl, rest⟩
      · rintro ⟨other, same, rest⟩
        cases same
        exact rest

theorem bind_eq_error {first : Except String Item} {next : Item → Except String Other}
    {message : String} :
    first >>= next = .error message ↔
      first = .error message ∨ ∃ item, first = .ok item ∧ next item = .error message := by
  cases first with
  | error other =>
      constructor
      · rintro ⟨⟩
        exact .inl rfl
      · rintro (stopped | ⟨item, impossible, _⟩)
        · cases stopped
          rfl
        · cases impossible
  | ok item =>
      constructor
      · exact fun rest => .inr ⟨item, rfl, rest⟩
      · rintro (impossible | ⟨other, same, rest⟩)
        · cases impossible
        · cases same
          exact rest

@[simp]
theorem ok_bind (item : Item) (next : Item → Except String Other) :
    (Except.ok item : Except String Item) >>= next = next item := rfl

@[simp]
theorem okOr_eq_ok {option : Option Item} {message : String} {item : Item} :
    okOr option message = .ok item ↔ option = some item := by
  cases option <;> simp [okOr]

@[simp]
theorem mapErr_eq_ok {context : String → String} {result : Except String Item} {item : Item} :
    mapErr context result = .ok item ↔ result = .ok item := by
  cases result <;> simp [mapErr]

theorem mapErr_eq_error {context : String → String} {result : Except String Item}
    {message : String} :
    mapErr context result = .error message ↔
      ∃ error, result = .error error ∧ message = context error := by
  cases result <;> simp [mapErr, eq_comm]

@[simp]
theorem ensure_eq_ok {condition : Prop} [Decidable condition] {message : String} {item : Unit} :
    ensure condition message = .ok item ↔ condition := by
  unfold ensure
  split <;> simp_all

theorem ensure_eq_error {condition : Prop} [Decidable condition] {message error : String} :
    ensure condition message = .error error ↔ ¬condition ∧ error = message := by
  unfold ensure
  split <;> simp_all [eq_comm]

@[simp]
theorem pure_eq_ok {item result : Item} :
    (pure item : Except String Item) = .ok result ↔ item = result := by
  constructor
  · exact Except.ok.inj
  · rintro rfl
    rfl

end FederatedCatalog.Foundation
