import Mathlib.Data.List.Forall2
import Mathlib.Data.List.ReduceOption

/-!
# Computations that draw fresh names

A `Supply` computation takes names from an inexhaustible stream.  `Gives` says
what its result satisfies whatever the names are, with one rule for each way
such computations are put together.
-/

namespace FederatedCatalog.Foundation

abbrev Supply (Name Result : Type) : Type := StateM (Nat → Name) Result

namespace Supply

variable {Name Item Result : Type}

def draw : Supply Name Name := fun names => (names 0, fun index => names (index + 1))

def value (computation : Supply Name Result) (names : Nat → Name) : Result :=
  (computation.run names).1

/-- Whatever names are drawn, the result has the property. -/
def Gives (computation : Supply Name Result) (property : Result → Prop) : Prop :=
  ∀ names, property (computation.value names)

theorem gives_pure {result : Result} {property : Result → Prop} (holds : property result) :
    Gives (pure result : Supply Name Result) property :=
  fun _ => holds

theorem Gives.bind {first : Supply Name Item} {next : Item → Supply Name Result}
    {intermediate : Item → Prop} {property : Result → Prop} (gives : Gives first intermediate)
    (continues : ∀ item, intermediate item → Gives (next item) property) :
    Gives (first >>= next) property :=
  fun names => continues _ (gives names) (first.run names).2

theorem Gives.mono {computation : Supply Name Result} {property weaker : Result → Prop}
    (gives : Gives computation property) (implied : ∀ result, property result → weaker result) :
    Gives computation weaker :=
  fun names => implied _ (gives names)

theorem gives_mapM {compute : Item → Supply Name Result} {related : Item → Result → Prop}
    (each : ∀ item, Gives (compute item) (related item)) (items : List Item) :
    Gives (items.mapM compute) (List.Forall₂ related items) := by
  induction items with
  | nil => exact gives_pure .nil
  | cons item rest inductionHypothesis =>
      rw [List.mapM_cons]
      refine (each item).bind ?_
      intro result relates
      refine inductionHypothesis.bind ?_
      intro results others
      exact gives_pure (.cons relates others)

end Supply

/-- Items for which there is nothing to compute and no result may as well be left out. -/
theorem mapM_filter_reduceOption {Effect : Type → Type} [Monad Effect] [LawfulMonad Effect]
    {Item Result Final : Type} {compute : Item → Effect (Option Result)} {select : Item → Bool}
    (nothing : ∀ item, select item = false → compute item = pure none) (items : List Item)
    (next : List Result → Effect Final) :
    (items.mapM compute >>= fun results => next results.reduceOption) =
      (items.filter select).mapM compute >>= fun results => next results.reduceOption := by
  induction items generalizing next with
  | nil => rfl
  | cons item rest inductionHypothesis =>
      cases selected : select item with
      | false =>
          rw [List.filter_cons_of_neg (by simp [selected]), List.mapM_cons,
            nothing item selected]
          simp only [pure_bind, bind_assoc, List.reduceOption_cons_of_none]
          exact inductionHypothesis next
      | true =>
          rw [List.filter_cons_of_pos selected, List.mapM_cons, List.mapM_cons]
          simp only [pure_bind, bind_assoc]
          congr 1
          funext result
          cases result with
          | none =>
              simp only [List.reduceOption_cons_of_none]
              exact inductionHypothesis next
          | some result =>
              simp only [List.reduceOption_cons_of_some]
              exact inductionHypothesis fun results => next (result :: results)

theorem map_eq_of_forall₂ {Item Result Shown : Type} {related : Item → Result → Prop}
    (read : Result → Shown) (expected : Item → Shown)
    (each : ∀ item result, related item result → read result = expected item)
    {items : List Item} {results : List Result} (all : List.Forall₂ related items results) :
    results.map read = items.map expected := by
  induction all with
  | nil => rfl
  | cons relates _ inductionHypothesis =>
      rw [List.map_cons, List.map_cons, each _ _ relates, inductionHypothesis]

end FederatedCatalog.Foundation
