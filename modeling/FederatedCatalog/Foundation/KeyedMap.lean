import Mathlib.Data.List.Sort
import Mathlib.Data.List.Nodup
import Mathlib.Logic.Function.Basic

/-!
# Partial maps of records that carry their own key

A `KeyedMap` is the content of a store as its clients understand it: at most
one record under each key.  A concrete store can only be observed through a
list of its records in some order, so `Enumerates` says when a list is such an
observation.  Two observations of one map are permutations of each other, and
sorting by a measure that separates the records removes even that freedom.
-/

namespace FederatedCatalog.Foundation

universe u v w

/-- The content of a store: at most one record under each key. -/
abbrev KeyedMap (Key : Type u) (Record : Type v) := Key → Option Record

namespace KeyedMap

variable {Key : Type u} {Record : Type v} [DecidableEq Key]

def store (key : Record → Key) (map : KeyedMap Key Record) (record : Record) :
    KeyedMap Key Record :=
  Function.update map (key record) (some record)

def remove (map : KeyedMap Key Record) (name : Key) : KeyedMap Key Record :=
  Function.update map name none

@[simp]
theorem store_same (key : Record → Key) (map : KeyedMap Key Record) (record : Record) :
    map.store key record (key record) = some record := by
  simp [store]

theorem store_apply (key : Record → Key) (map : KeyedMap Key Record) (record : Record)
    (name : Key) :
    map.store key record name = if name = key record then some record else map name := by
  simp [store, Function.update_apply]

theorem remove_apply (map : KeyedMap Key Record) (removed name : Key) :
    map.remove removed name = if name = removed then none else map name := by
  simp [remove, Function.update_apply]

end KeyedMap

variable {Key : Type u} {Record : Type v}

/-- `records` lists every record of `map` exactly once. -/
structure Enumerates (key : Record → Key) (map : KeyedMap Key Record)
    (records : List Record) : Prop where
  distinct : (records.map key).Nodup
  stored : ∀ record ∈ records, map (key record) = some record
  complete : ∀ name record, map name = some record → record ∈ records ∧ key record = name

namespace Enumerates

variable {key : Record → Key} {map : KeyedMap Key Record} {records others : List Record}

theorem nodup (listed : Enumerates key map records) : records.Nodup :=
  listed.distinct.of_map

theorem mem_iff (listed : Enumerates key map records) (record : Record) :
    record ∈ records ↔ map (key record) = some record :=
  ⟨listed.stored record, fun present => (listed.complete _ _ present).1⟩

theorem key_of_stored (listed : Enumerates key map records) {name : Key} {record : Record}
    (present : map name = some record) : key record = name :=
  (listed.complete name record present).2

theorem perm (listed : Enumerates key map records) (again : Enumerates key map others) :
    records.Perm others :=
  (List.perm_ext_iff_of_nodup listed.nodup again.nodup).mpr fun record => by
    rw [listed.mem_iff, again.mem_iff]

theorem of_perm (listed : Enumerates key map records) (reordered : records.Perm others) :
    Enumerates key map others where
  distinct := ((reordered.map key).nodup_iff).mp listed.distinct
  stored := fun record membership => listed.stored record (reordered.mem_iff.mpr membership)
  complete := fun name record present =>
    ⟨reordered.mem_iff.mp (listed.complete name record present).1,
      (listed.complete name record present).2⟩

@[simp]
theorem nil_iff : Enumerates key map [] ↔ map = fun _ => none := by
  constructor
  · intro listed
    funext name
    cases present : map name with
    | none => rfl
    | some record => simpa using (listed.complete name record present).1
  · rintro rfl
    exact ⟨List.nodup_nil, by simp, by simp⟩

variable [DecidableEq Key]

theorem remove (listed : Enumerates key map records) (name : Key) :
    Enumerates key (map.remove name) (records.filter fun record => key record ≠ name) where
  distinct := listed.distinct.sublist (List.filter_sublist.map key)
  stored := by
    intro record membership
    simp only [ne_eq, decide_not, List.mem_filter, Bool.not_eq_eq_eq_not, Bool.not_true,
      decide_eq_false_iff_not] at membership
    rw [KeyedMap.remove_apply, if_neg membership.2]
    exact listed.stored record membership.1
  complete := by
    intro other record present
    rw [KeyedMap.remove_apply] at present
    split at present
    · cases present
    · next different =>
      have keyed := listed.key_of_stored present
      refine ⟨List.mem_filter.mpr ⟨(listed.complete other record present).1, ?_⟩, keyed⟩
      simpa [keyed] using different

theorem store (listed : Enumerates key map records) (record : Record) :
    Enumerates key (map.store key record)
      (record :: records.filter fun other => key other ≠ key record) where
  distinct := by
    refine List.nodup_cons.mpr ⟨?_, (listed.remove (key record)).distinct⟩
    intro membership
    rcases List.mem_map.mp membership with ⟨other, kept, same⟩
    simp [same] at kept
  stored := by
    intro other membership
    rcases List.mem_cons.mp membership with rfl | kept
    · exact KeyedMap.store_same key map other
    · have different : key other ≠ key record := by simpa using (List.mem_filter.mp kept).2
      rw [KeyedMap.store_apply, if_neg different]
      exact listed.stored other (List.mem_filter.mp kept).1
  complete := by
    intro name other present
    rw [KeyedMap.store_apply] at present
    split at present
    · next same =>
      cases present
      exact ⟨List.mem_cons_self, same.symm⟩
    · next different =>
      have keyed := listed.key_of_stored present
      refine ⟨List.mem_cons_of_mem _ (List.mem_filter.mpr
        ⟨(listed.complete name other present).1, ?_⟩), keyed⟩
      simpa [keyed] using different

theorem eq_singleton {record : Record}
    (listed : Enumerates key (KeyedMap.store key (fun _ => none) record) records) :
    records = [record] := by
  have none : Enumerates key (fun _ => none) ([] : List Record) := nil_iff.mpr rfl
  exact List.perm_singleton.mp (listed.perm (none.store record))

theorem filter_key (listed : Enumerates key map records) (name : Key) :
    (records.filter fun record => key record = name) = (map name).toList := by
  have distinct : (records.filter fun record => key record = name).Nodup :=
    listed.nodup.filter _
  have same : ∀ record, record ∈ (records.filter fun record => key record = name) ↔
      record ∈ (map name).toList := by
    intro record
    simp only [List.mem_filter, Option.mem_toList, decide_eq_true_eq]
    constructor
    · rintro ⟨membership, keyed⟩
      exact keyed ▸ listed.stored record membership
    · exact listed.complete name record
  have single : (map name).toList.Nodup := by cases map name <;> simp
  have reordered := (List.perm_ext_iff_of_nodup distinct single).mpr same
  cases present : map name with
  | none => simpa [present] using reordered
  | some record => simpa [present] using reordered

end Enumerates

variable {Measure : Type w} [LinearOrder Measure]

/-- A stable sort by a measure of the records. -/
def sortBy (measure : Record → Measure) (records : List Record) : List Record :=
  records.insertionSort fun first second => measure first ≤ measure second

@[simp]
theorem sortBy_nil (measure : Record → Measure) : sortBy measure ([] : List Record) = [] := rfl

@[simp]
theorem sortBy_singleton (measure : Record → Measure) (record : Record) :
    sortBy measure [record] = [record] := rfl

theorem sortBy_perm (measure : Record → Measure) (records : List Record) :
    (sortBy measure records).Perm records :=
  List.perm_insertionSort _ records

theorem sortBy_ordered (measure : Record → Measure) (records : List Record) :
    (sortBy measure records).Pairwise fun first second => measure first ≤ measure second := by
  have total : Std.Total fun first second : Record => measure first ≤ measure second :=
    ⟨fun first second => le_total (measure first) (measure second)⟩
  have transitive : IsTrans Record fun first second => measure first ≤ measure second :=
    ⟨fun _ _ _ => le_trans⟩
  exact List.pairwise_insertionSort _ records

/-- Maps with the same selected records, none of one measure, list them alike. -/
theorem Enumerates.filter_eq {key : Record → Key} {first second : KeyedMap Key Record}
    {records others : List Record} {measure : Record → Measure} {select : Record → Bool}
    (listed : Enumerates key first records) (otherListed : Enumerates key second others)
    (ordered : records.Pairwise fun record other => measure record ≤ measure other)
    (otherOrdered : others.Pairwise fun record other => measure record ≤ measure other)
    (same : ∀ record, select record = true →
      (first (key record) = some record ↔ second (key record) = some record))
    (distinct : ∀ record ∈ records, ∀ other ∈ records, select record = true →
      select other = true → measure record = measure other → record = other) :
    records.filter select = others.filter select := by
  have permuted : (records.filter select).Perm (others.filter select) := by
    apply (List.perm_ext_iff_of_nodup (listed.nodup.filter _) (otherListed.nodup.filter _)).mpr
    intro record
    rw [List.mem_filter, List.mem_filter, listed.mem_iff, otherListed.mem_iff]
    exact and_congr_left (same record)
  apply List.Perm.eq_of_pairwise _ (ordered.filter _) (otherOrdered.filter _) permuted
  intro record other inRecords inOthers below above
  obtain ⟨membership, selected⟩ := List.mem_filter.mp inRecords
  obtain ⟨otherMembership, otherSelected⟩ := List.mem_filter.mp (permuted.mem_iff.mpr inOthers)
  exact distinct record membership other otherMembership selected otherSelected
    (le_antisymm below above)

/-- Sorting is stable: what was listed in an order that the measure allows stays in it. -/
theorem pair_sublist_sortBy {measure : Record → Measure} {first second : Record}
    {records : List Record} (below : measure first ≤ measure second)
    (listed : [first, second].Sublist records) :
    [first, second].Sublist (sortBy measure records) :=
  List.pair_sublist_insertionSort below listed

theorem not_both_orders {records : List Record} (nodup : records.Nodup) {first second : Record}
    (inOrder : [first, second].Sublist records) (reversed : [second, first].Sublist records) :
    False := by
  induction records with
  | nil => cases inOrder
  | cons record rest inductionHypothesis =>
      obtain ⟨fresh, restNodup⟩ := List.nodup_cons.mp nodup
      cases inOrder with
      | cons _ inRest =>
          cases reversed with
          | cons _ reversedInRest => exact inductionHypothesis restNodup inRest reversedInRest
          | cons_cons _ _ => exact fresh (inRest.subset (by simp))
      | cons_cons _ later =>
          cases reversed with
          | cons _ reversedInRest => exact fresh (reversedInRest.subset (by simp))
          | cons_cons _ _ => exact fresh (later.subset (by simp))

def page (offset : Nat) (limit : Option Nat) (records : List Record) : List Record :=
  match limit with
  | some count => (records.drop offset).take count
  | none => records.drop offset

/-- The first pages of a size, one after the other, are the records up to there. -/
theorem flatMap_pages (records : List Record) (size count : Nat) :
    ((List.range count).flatMap fun index => page (index * size) (some size) records) =
      records.take (count * size) := by
  induction count with
  | zero => simp
  | succ count inductionHypothesis =>
      rw [List.range_succ, List.flatMap_append, inductionHypothesis, List.flatMap_singleton,
        Nat.succ_mul, List.take_add]
      rfl

theorem page_map {Image : Type w} (image : Record → Image) (offset : Nat) (limit : Option Nat)
    (records : List Record) :
    (page offset limit records).map image = page offset limit (records.map image) := by
  cases limit <;> simp [page, List.map_take, List.map_drop]

theorem length_le_of_page_eq_nil {records : List Record} {offset size : Nat} (positive : 0 < size)
    (empty : page offset (some size) records = []) : records.length ≤ offset := by
  have none := congrArg List.length empty
  simp only [page, List.length_take, List.length_drop, List.length_nil] at none
  omega

@[simp]
theorem page_whole (records : List Record) : page 0 none records = records := rfl

section Association

variable {Item : Type v} {Other : Type w} [BEq Key]

theorem lookup_map_snd (change : Item → Other)
    (entries : List (Key × Item)) (key : Key) :
    (entries.map fun entry => (entry.1, change entry.2)).lookup key =
      (entries.lookup key).map change := by
  induction entries with
  | nil => rfl
  | cons entry rest inductionHypothesis =>
      rw [List.map_cons, List.lookup_cons, List.lookup_cons, inductionHypothesis]
      cases key == entry.1 <;> rfl

end Association

end FederatedCatalog.Foundation
