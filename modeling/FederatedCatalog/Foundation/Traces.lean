import Mathlib.Data.List.Basic
import Mathlib.Data.List.Nodup

/-!
# Sequences that differ across names only

Two sequences have the same traces when the items of each name come in the
same order in both.  Such sequences are permutations of each other, and no
search among the items of one name can tell them apart.
-/

namespace FederatedCatalog.Foundation

universe u v w

variable {Item : Type u} {Name : Type v} {Image : Type w} [DecidableEq Name]

/-- The items of each name come in the same order. -/
def SameTraces (name : Item → Name) (first second : List Item) : Prop :=
  ∀ key, (first.filter fun item => name item = key) = second.filter fun item => name item = key

namespace SameTraces

variable {name : Item → Name} {first second : List Item}

theorem head_split {item : Item} {rest : List Item}
    (same : SameTraces name (item :: rest) second) :
    ∃ before after, second = before ++ item :: after ∧
      SameTraces name rest (before ++ after) := by
  have own := same (name item)
  rw [List.filter_cons_of_pos (by simp)] at own
  obtain ⟨before, after, split, others, _, further⟩ := List.filter_eq_cons_iff.mp own.symm
  refine ⟨before, after, split, ?_⟩
  intro key
  by_cases here : name item = key
  · subst here
    rw [List.filter_append, List.filter_eq_nil_iff.mpr others, List.nil_append, further]
  · have elsewhere := same key
    rw [List.filter_cons_of_neg (by simpa using here), split, List.filter_append,
      List.filter_cons_of_neg (by simpa using here)] at elsewhere
    rw [elsewhere, List.filter_append]

theorem perm (same : SameTraces name first second) : first.Perm second := by
  induction first generalizing second with
  | nil =>
      cases second with
      | nil => exact .nil
      | cons item rest =>
          have none := same (name item)
          rw [List.filter_cons_of_pos (by simp)] at none
          cases none
  | cons item rest inductionHypothesis =>
      obtain ⟨before, after, split, further⟩ := same.head_split
      rw [split]
      apply List.Perm.trans (List.Perm.cons item (inductionHypothesis further))
      exact List.perm_middle.symm

/-- Items of distinct names have no order to keep. -/
theorem of_perm (reordered : first.Perm second) (distinct : (first.map name).Nodup) :
    SameTraces name first second := by
  intro key
  have few := List.nodup_iff_count_le_one.mp distinct key
  have named := reordered.filter fun item => name item = key
  have length : (first.filter fun item => name item = key).length = (first.map name).count key := by
    rw [List.count, List.countP_map, List.countP_eq_length_filter]
    rfl
  cases own : first.filter fun item => name item = key with
  | nil =>
      rw [own] at named
      exact named.nil_eq
  | cons item rest =>
      rw [own, List.length_cons] at length
      obtain rfl : rest = [] := List.eq_nil_of_length_eq_zero (by omega)
      rw [own] at named
      exact (List.singleton_perm.mp named)

theorem filterMap {rename : Image → Name} {change : Item → Option Image}
    (kept : ∀ item image, change item = some image → rename image = name item)
    (same : SameTraces name first second) :
    SameTraces rename (first.filterMap change) (second.filterMap change) := by
  have swapped : ∀ (items : List Item) key,
      ((items.filterMap change).filter fun image => rename image = key) =
        (items.filter fun item => name item = key).filterMap change := by
    intro items key
    rw [List.filter_filterMap, List.filterMap_filter]
    apply List.filterMap_congr
    intro item _
    cases taken : change item with
    | none => simp
    | some image => simp [Option.filter, kept item image taken]
  intro key
  rw [swapped, swapped, same key]

theorem map {rename : Image → Name} {change : Item → Image}
    (kept : ∀ item, rename (change item) = name item) (same : SameTraces name first second) :
    SameTraces rename (first.map change) (second.map change) := by
  rw [← List.filterMap_eq_map]
  apply same.filterMap
  intro item image taken
  cases taken
  exact kept item

theorem find?_last (same : SameTraces name first second) (wanted : Item → Bool) (key : Name) :
    (first.reverse.find? fun item => wanted item && name item = key) =
      second.reverse.find? fun item => wanted item && name item = key := by
  have among : ∀ items : List Item,
      (items.reverse.find? fun item => wanted item && name item = key) =
        (items.filter fun item => name item = key).reverse.find? wanted := by
    intro items
    rw [← List.filter_reverse, List.find?_filter]
    congr 1
    funext item
    rw [Bool.and_comm]
    simp
  rw [among, among, same key]

end SameTraces

end FederatedCatalog.Foundation
