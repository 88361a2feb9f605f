import Mathlib.Data.List.Nodup
import Mathlib.Order.Lattice

/-!
# Maps kept in key order

A `SortedMap` is the list of its entries in strictly increasing key order, so
two maps with the same entries are the same list.  `ofEntries` reads entries
in any order; of several entries under one key the last one counts.
-/

namespace FederatedCatalog.Foundation

universe u v

structure SortedMap (Key : Type u) (Item : Type v) [LinearOrder Key] where
  entries : List (Key × Item)
  ordered : entries.Pairwise fun first second => first.1 < second.1

namespace SortedMap

variable {Key : Type u} {Item : Type v} [LinearOrder Key]

instance [DecidableEq Item] : DecidableEq (SortedMap Key Item)
  | ⟨first, _⟩, ⟨second, _⟩ =>
      decidable_of_iff (first = second) (by simp)

@[ext]
theorem ext {first second : SortedMap Key Item} (same : first.entries = second.entries) :
    first = second := by
  cases first
  cases second
  cases same
  rfl

def empty : SortedMap Key Item := ⟨[], List.Pairwise.nil⟩

theorem keys_nodup (map : SortedMap Key Item) : (map.entries.map Prod.fst).Nodup :=
  List.pairwise_map.mpr (map.ordered.imp fun below => ne_of_lt below)

def insertEntry (entry : Key × Item) : List (Key × Item) → List (Key × Item)
  | [] => [entry]
  | head :: rest =>
      if entry.1 < head.1 then entry :: head :: rest
      else if entry.1 = head.1 then head :: rest
      else head :: insertEntry entry rest

theorem mem_insertEntry {entry other : Key × Item} {entries : List (Key × Item)}
    (membership : other ∈ insertEntry entry entries) : other = entry ∨ other ∈ entries := by
  induction entries with
  | nil => simpa [insertEntry] using membership
  | cons head rest inductionHypothesis =>
      simp only [insertEntry] at membership
      split at membership
      · simpa using membership
      · split at membership
        · exact .inr membership
        · rcases List.mem_cons.mp membership with rfl | later
          · exact .inr List.mem_cons_self
          · exact (inductionHypothesis later).imp_right (List.mem_cons_of_mem head)

theorem insertEntry_ordered (entry : Key × Item) {entries : List (Key × Item)}
    (ordered : entries.Pairwise fun first second => first.1 < second.1) :
    (insertEntry entry entries).Pairwise fun first second => first.1 < second.1 := by
  induction entries with
  | nil => simp [insertEntry]
  | cons head rest inductionHypothesis =>
      have headBelow := (List.pairwise_cons.mp ordered).1
      have restOrdered := (List.pairwise_cons.mp ordered).2
      simp only [insertEntry]
      split
      · next below =>
        refine List.pairwise_cons.mpr ⟨?_, ordered⟩
        intro other membership
        rcases List.mem_cons.mp membership with rfl | later
        · exact below
        · exact lt_trans below (headBelow other later)
      · next notBelow =>
        split
        · exact ordered
        · next different =>
          refine List.pairwise_cons.mpr ⟨?_, inductionHypothesis restOrdered⟩
          intro other membership
          rcases mem_insertEntry membership with rfl | later
          · exact lt_of_le_of_ne (not_lt.mp notBelow) (Ne.symm different)
          · exact headBelow other later

theorem insertEntry_of_below {entry : Key × Item} {entries : List (Key × Item)}
    (below : ∀ other ∈ entries, entry.1 < other.1) :
    insertEntry entry entries = entry :: entries := by
  cases entries with
  | nil => rfl
  | cons head rest => simp [insertEntry, below head List.mem_cons_self]

/-- The map that a reader builds from entries listed in any order. -/
def ofEntries : List (Key × Item) → SortedMap Key Item
  | [] => empty
  | entry :: rest =>
      ⟨insertEntry entry (ofEntries rest).entries,
        insertEntry_ordered entry (ofEntries rest).ordered⟩

@[simp]
theorem ofEntries_entries (map : SortedMap Key Item) : ofEntries map.entries = map := by
  rcases map with ⟨entries, ordered⟩
  induction entries with
  | nil => rfl
  | cons head rest inductionHypothesis =>
      have parts := List.pairwise_cons.mp ordered
      apply ext
      simp only [ofEntries, inductionHypothesis parts.2]
      exact insertEntry_of_below parts.1

end SortedMap

end FederatedCatalog.Foundation
