import FederatedCatalog.Foundation.KeyedMap

/-!
# The first match in an ordered enumeration

A search that goes through a map's records in the order of a measure finds a
match of least measure.  Which one, where several have that measure, is up to
the enumeration; and storing one more record changes the result in two ways
only, depending on whether the new record is a smaller match.
-/

namespace FederatedCatalog.Foundation

universe u v w x

variable {Key : Type u} {Record : Type v} {Measure : Type w} {Found : Type x}

/-- A record that matches, with the least measure of those that do. -/
structure LeastMatch [LE Measure] (key : Record → Key) (measure : Record → Measure)
    (search : Record → Option Found) (map : KeyedMap Key Record) (record : Record)
    (found : Found) : Prop where
  stored : map (key record) = some record
  matched : search record = some found
  least : ∀ name other, map name = some other → (search other).isSome →
    measure record ≤ measure other

section Search

variable [LinearOrder Measure] {key : Record → Key} {measure : Record → Measure}
  {search : Record → Option Found} {map : KeyedMap Key Record} {records : List Record}
  {record : Record} {found : Found}

structure FirstMatch (search : Record → Option Found) (records : List Record) (record : Record)
    (found : Found) : Prop where
  listed : ∃ earlier later, records = earlier ++ record :: later ∧
    ∀ other ∈ earlier, search other = none
  matched : search record = some found

theorem findSome?_eq_some : records.findSome? search = some found ↔
    ∃ record, FirstMatch search records record found := by
  rw [List.findSome?_eq_some_iff]
  constructor
  · rintro ⟨earlier, record, later, split, matched, silent⟩
    exact ⟨record, ⟨earlier, later, split, silent⟩, matched⟩
  · rintro ⟨record, ⟨earlier, later, split, silent⟩, matched⟩
    exact ⟨earlier, record, later, split, matched, silent⟩

theorem FirstMatch.leastMatch (first : FirstMatch search records record found)
    (enumerates : Enumerates key map records)
    (ordered : records.Pairwise fun first second => measure first ≤ measure second) :
    LeastMatch key measure search map record found := by
  obtain ⟨⟨earlier, later, rfl, silent⟩, matched⟩ := first
  refine ⟨enumerates.stored record (by simp), matched, ?_⟩
  intro name other stored answers
  obtain ⟨membership, _⟩ := enumerates.complete name other stored
  rcases List.mem_append.mp membership with before | rest
  · rw [silent other before] at answers
    cases answers
  · rcases List.mem_cons.mp rest with rfl | after
    · exact le_rfl
    · exact (List.pairwise_cons.mp (List.pairwise_append.mp ordered).2.1).1 other after

theorem findSome?_orderedInsert (matched : search record = some found)
    (least : ∀ other ∈ records, (search other).isSome → measure record ≤ measure other) :
    (records.orderedInsert (fun first second => measure first ≤ measure second) record).findSome?
      search = some found := by
  induction records with
  | nil => simp [matched]
  | cons other rest inductionHypothesis =>
      rw [List.orderedInsert_cons]
      by_cases below : measure record ≤ measure other
      · rw [if_pos below, List.findSome?_cons, matched]
      · have silent : search other = none := by
          by_contra answers
          exact below (least other List.mem_cons_self (Option.isSome_iff_ne_none.mpr answers))
        rw [if_neg below, List.findSome?_cons, silent]
        apply inductionHypothesis
        intro further membership
        exact least further (List.mem_cons_of_mem other membership)

/-- Every least match is found through some enumeration. -/
theorem LeastMatch.found_first (leastMatch : LeastMatch key measure search map record found)
    (enumerates : Enumerates key map records) :
    ∃ listed, Enumerates key map listed ∧ (sortBy measure listed).findSome? search = some found := by
  have membership := (enumerates.complete _ record leastMatch.stored).1
  obtain ⟨earlier, later, rfl⟩ := List.append_of_mem membership
  have toFront : (earlier ++ record :: later).Perm (record :: (earlier ++ later)) :=
    List.perm_middle
  have listed := enumerates.of_perm toFront
  refine ⟨record :: (earlier ++ later), listed, ?_⟩
  apply findSome?_orderedInsert leastMatch.matched
  intro other inRest answers
  have inListed : other ∈ record :: (earlier ++ later) :=
    List.mem_cons_of_mem record ((sortBy_perm measure _).mem_iff.mp inRest)
  exact leastMatch.least _ other (listed.stored other inListed) answers

end Search

section Store

variable [DecidableEq Key] [LinearOrder Measure] {key : Record → Key}
  {measure : Record → Measure} {search : Record → Option Found} {map : KeyedMap Key Record}
  {record added : Record} {found : Found}
  (leastMatch : LeastMatch key measure search map record found) (other : key added ≠ key record)

include leastMatch other

theorem LeastMatch.still_stored : map.store key added (key record) = some record := by
  rw [KeyedMap.store_apply, if_neg (Ne.symm other)]
  exact leastMatch.stored

omit other in
theorem LeastMatch.store_smaller (smaller : measure added < measure record)
    (answers : (search added).isSome) {result : Record} {shown : Found} :
    LeastMatch key measure search (map.store key added) result shown ↔
      result = added ∧ search added = some shown := by
  constructor
  · intro least
    have below := least.least (key added) added (KeyedMap.store_same key map added) answers
    have stored := least.stored
    rw [KeyedMap.store_apply] at stored
    by_cases same : key result = key added
    · rw [if_pos same] at stored
      cases stored
      exact ⟨rfl, least.matched⟩
    · rw [if_neg same] at stored
      have above := leastMatch.least _ result stored (by rw [least.matched]; rfl)
      exact absurd (above.trans below) (not_le.mpr smaller)
  · rintro ⟨rfl, matched⟩
    refine ⟨KeyedMap.store_same key map result, matched, ?_⟩
    intro name further stored furtherAnswers
    rw [KeyedMap.store_apply] at stored
    by_cases same : name = key result
    · rw [if_pos same] at stored
      cases stored
      exact le_rfl
    · rw [if_neg same] at stored
      exact smaller.le.trans (leastMatch.least name further stored furtherAnswers)

/-- Any other record leaves the least matches those of the old measure. -/
theorem LeastMatch.store_else
    (harmless : ¬(measure added < measure record ∧ (search added).isSome)) {result : Record}
    {shown : Found} :
    LeastMatch key measure search (map.store key added) result shown ↔
      map.store key added (key result) = some result ∧ measure result = measure record ∧
        search result = some shown := by
  have above : ∀ name further, map.store key added name = some further →
      (search further).isSome → measure record ≤ measure further := by
    intro name further stored answers
    rw [KeyedMap.store_apply] at stored
    by_cases same : name = key added
    · rw [if_pos same] at stored
      cases stored
      exact not_lt.mp fun smaller => harmless ⟨smaller, answers⟩
    · rw [if_neg same] at stored
      exact leastMatch.least name further stored answers
  constructor
  · intro least
    have below := least.least _ record (leastMatch.still_stored other)
      (by rw [leastMatch.matched]; rfl)
    have bound := above _ result least.stored (by rw [least.matched]; rfl)
    exact ⟨least.stored, le_antisymm below bound, least.matched⟩
  · rintro ⟨stored, same, matched⟩
    refine ⟨stored, matched, ?_⟩
    rw [same]
    exact above

end Store

end FederatedCatalog.Foundation
