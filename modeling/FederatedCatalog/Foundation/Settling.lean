import Mathlib.Order.Filter.AtTopBot.Basic
import Mathlib.Order.Filter.Finite

/-!
# Values that settle

Cells are recomputed now and then, each from what other cells held some time
before.  Where no cell reads itself through others, every cell has its final
value from some time on.
-/

namespace FederatedCatalog.Foundation

open Filter

universe u v

/-- A value that is kept or made right, and made right again and again, is right in the end. -/
theorem eventually_of_replaced {Value : Type v} {right : Value → Prop} {value : Nat → Value}
    (steps : ∀ᶠ time in atTop, value (time + 1) = value time ∨ right (value (time + 1)))
    (often : ∃ᶠ time in atTop, right (value (time + 1))) :
    ∀ᶠ time in atTop, right (value time) := by
  obtain ⟨start, kept⟩ := eventually_atTop.mp steps
  obtain ⟨first, late, made⟩ := frequently_atTop.mp often start
  apply eventually_atTop.mpr
  refine ⟨first + 1, ?_⟩
  intro time after
  induction time, after using Nat.le_induction with
  | base => exact made
  | succ time after inductionHypothesis =>
      rcases kept time (by omega) with same | right
      · rw [same]
        exact inductionHypothesis
      · exact right

variable {Cell : Type u} {Value : Type v}

/-- A run in which a recomputation of a cell at `time` uses what the cells held at `readAt`. -/
structure Recomputing (reads : Cell → Cell → Prop) (final : Cell → Value → Prop)
    (value : Nat → Cell → Value) (recomputed : Nat → Cell → (readAt : Nat) → Prop) : Prop where
  step : ∀ time cell, value (time + 1) cell = value time cell ∨ ∃ readAt, recomputed time cell readAt
  correct : ∀ time cell readAt, recomputed time cell readAt →
    (∀ other, reads cell other → final other (value readAt other)) →
      final cell (value (time + 1) cell)
  /-- No cell is read as it was long ago, for ever. -/
  recent : ∀ start, ∀ᶠ time in atTop, ∀ cell readAt, recomputed time cell readAt → start ≤ readAt
  progress : ∀ cell, (∃ᶠ time in atTop, ∃ readAt, recomputed time cell readAt) ∨
    ∀ time, final cell (value time cell)

variable {reads : Cell → Cell → Prop} {final : Cell → Value → Prop} {value : Nat → Cell → Value}
  {recomputed : Nat → Cell → Nat → Prop}

theorem Recomputing.settles_after (run : Recomputing reads final value recomputed) {cell : Cell}
    (finite : {other | reads cell other}.Finite)
    (others : ∀ other, reads cell other → ∀ᶠ time in atTop, final other (value time other)) :
    ∀ᶠ time in atTop, final cell (value time cell) := by
  have allSettled : ∀ᶠ time in atTop, ∀ other ∈ {other | reads cell other},
      final other (value time other) :=
    (eventually_all_finite finite).mpr others
  obtain ⟨settled, after⟩ := eventually_atTop.mp allSettled
  have right : ∀ᶠ time in atTop, ∀ readAt, recomputed time cell readAt →
      final cell (value (time + 1) cell) := by
    filter_upwards [run.recent settled] with time late readAt done
    exact run.correct time cell readAt done (after readAt (late cell readAt done))
  rcases run.progress cell with often | always
  · apply @eventually_of_replaced Value (final cell) fun time => value time cell
    · filter_upwards [right] with time made
      apply (run.step time cell).imp_right
      intro ⟨readAt, done⟩
      exact made readAt done
    · apply (often.and_eventually right).mono
      intro time ⟨⟨readAt, done⟩, made⟩
      exact made readAt done
  · exact Eventually.of_forall always

/-- Every cell from which the reading leads to an end settles. -/
theorem Recomputing.settles (run : Recomputing reads final value recomputed)
    (finite : ∀ cell, {other | reads cell other}.Finite) {cell : Cell}
    (ends : Acc (fun other cell => reads cell other) cell) :
    ∀ᶠ time in atTop, final cell (value time cell) := by
  induction ends with
  | intro cell _ inductionHypothesis =>
      exact run.settles_after (finite cell) inductionHypothesis

end FederatedCatalog.Foundation
