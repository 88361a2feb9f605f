import Mathlib.Data.List.Nodup

/-!
# Gathering what is listed under a label

Items carry a label and some contents.  Gathering by label gives back the
contents of each single item exactly when no two items share a label.
-/

namespace FederatedCatalog.Foundation

universe u v w

variable {Item : Type u} {Label : Type v} {Content : Type w} [DecidableEq Label]

def gather (label : Item → Label) (contents : Item → List Content) (items : List Item)
    (name : Label) : List Content :=
  (items.filter fun item => label item = name).flatMap contents

variable {label : Item → Label} {contents : Item → List Content} {items : List Item}

theorem gather_cons (item : Item) (rest : List Item) (name : Label) :
    gather label contents (item :: rest) name =
      (if label item = name then contents item else []) ++ gather label contents rest name := by
  unfold gather
  by_cases named : label item = name
  · rw [List.filter_cons_of_pos (by simpa using named), List.flatMap_cons, if_pos named]
  · rw [List.filter_cons_of_neg (by simpa using named), if_neg named, List.nil_append]

theorem eq_singleton_of_flatMap (filled : ∀ item ∈ items, contents item ≠ []) {item : Item}
    (membership : item ∈ items) (alone : items.flatMap contents = contents item) :
    items = [item] := by
  obtain ⟨before, after, rfl⟩ := List.append_of_mem membership
  have lengths := congrArg List.length alone
  simp only [List.flatMap_append, List.flatMap_cons, List.length_append] at lengths
  have nothing : ∀ others : List Item, (∀ other ∈ others, contents other ≠ []) →
      (others.flatMap contents).length = 0 → others = [] := by
    intro others othersFilled empty
    cases others with
    | nil => rfl
    | cons other rest =>
        rw [List.length_eq_zero_iff, List.flatMap_cons, List.append_eq_nil_iff] at empty
        exact absurd empty.1 (othersFilled other List.mem_cons_self)
  have noneBefore := nothing before
    (fun other listed => filled other (List.mem_append_left _ listed)) (by omega)
  have noneAfter := nothing after
    (fun other listed => filled other
      (List.mem_append_right _ (List.mem_cons_of_mem _ listed))) (by omega)
  rw [noneBefore, noneAfter, List.nil_append]

/-- Gathering recovers every item's contents exactly when the labels are distinct. -/
theorem gather_each_iff (distinct : items.Nodup) (filled : ∀ item ∈ items, contents item ≠ []) :
    (∀ item ∈ items, gather label contents items (label item) = contents item) ↔
      (items.map label).Nodup := by
  have alone : ∀ item ∈ items, (items.filter fun other => label other = label item) = [item] ↔
      gather label contents items (label item) = contents item := by
    intro item membership
    constructor
    · intro single
      rw [gather, single, List.flatMap_singleton]
    · intro gathered
      refine eq_singleton_of_flatMap ?_ ?_ gathered
      · intro other listed
        exact filled other (List.mem_filter.mp listed).1
      · exact List.mem_filter.mpr ⟨membership, by simp⟩
  rw [List.nodup_map_iff_inj_on distinct]
  constructor
  · intro recovered item membership other otherMembership same
    have single := (alone item membership).mpr (recovered item membership)
    have listed : other ∈ items.filter fun other => label other = label item :=
      List.mem_filter.mpr ⟨otherMembership, by simp [same]⟩
    rw [single] at listed
    exact (List.mem_singleton.mp listed).symm
  · intro injective item membership
    apply (alone item membership).mp
    have only : ∀ other ∈ items.filter fun other => label other = label item, other = item := by
      intro other listed
      obtain ⟨inItems, same⟩ := List.mem_filter.mp listed
      exact injective other inItems item membership (of_decide_eq_true same)
    have listed : item ∈ items.filter fun other => label other = label item :=
      List.mem_filter.mpr ⟨membership, by simp⟩
    have nodup := distinct.filter fun other => decide (label other = label item)
    have repeated := List.eq_replicate_of_mem only
    rw [repeated, List.nodup_replicate] at nodup
    have some := List.length_pos_of_mem listed
    have one : (items.filter fun other => label other = label item).length = 1 := by omega
    rw [repeated, one, List.replicate_one]

end FederatedCatalog.Foundation
