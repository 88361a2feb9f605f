import Mathlib.Data.List.Basic

/-!
# Text operations

`str::split`, `str::replace`, `str::strip_prefix` and `str::trim` on lists of
characters, and what cutting a text at a separator says about its pieces.
-/

namespace FederatedCatalog.Foundation

/-! ## Splitting -/

def splitChars (separator : Char) : List Char → List (List Char)
  | [] => [[]]
  | char :: rest =>
      if char = separator then [] :: splitChars separator rest
      else
        match splitChars separator rest with
        | [] => [[char]]
        | piece :: pieces => (char :: piece) :: pieces

/-- `str::split` at a character. -/
def split (separator : Char) (text : String) : List String :=
  (splitChars separator text.toList).map String.ofList

theorem splitChars_of_not_mem {separator : Char} {chars : List Char}
    (free : separator ∉ chars) : splitChars separator chars = [chars] := by
  induction chars with
  | nil => rfl
  | cons char rest inductionHypothesis =>
      have parts := not_or.mp (fun membership => free (List.mem_cons.mpr membership))
      rw [splitChars, if_neg (Ne.symm parts.1), inductionHypothesis parts.2]

theorem splitChars_append {separator : Char} {chars : List Char} (rest : List Char)
    (free : separator ∉ chars) :
    splitChars separator (chars ++ separator :: rest) = chars :: splitChars separator rest := by
  induction chars with
  | nil => simp [splitChars]
  | cons char others inductionHypothesis =>
      have parts := not_or.mp (fun membership => free (List.mem_cons.mpr membership))
      rw [List.cons_append, splitChars, if_neg (Ne.symm parts.1), inductionHypothesis parts.2]

theorem splitChars_free (separator : Char) (chars : List Char) :
    ∀ piece ∈ splitChars separator chars, separator ∉ piece := by
  induction chars with
  | nil => simp [splitChars]
  | cons char rest inductionHypothesis =>
      intro piece membership
      rw [splitChars] at membership
      by_cases same : char = separator
      · rw [if_pos same] at membership
        rcases List.mem_cons.mp membership with rfl | later
        · exact List.not_mem_nil
        · exact inductionHypothesis piece later
      · rw [if_neg same] at membership
        cases pieces : splitChars separator rest with
        | nil =>
            rw [pieces] at membership
            rw [List.mem_singleton.mp membership, List.mem_singleton]
            exact Ne.symm same
        | cons first others =>
            rw [pieces] at membership inductionHypothesis
            rcases List.mem_cons.mp membership with rfl | later
            · intro found
              rcases List.mem_cons.mp found with isChar | inFirst
              · exact same isChar.symm
              · exact inductionHypothesis first List.mem_cons_self inFirst
            · exact inductionHypothesis piece (List.mem_cons_of_mem first later)

theorem split_free (separator : Char) (text : String) :
    ∀ piece ∈ split separator text, separator ∉ piece.toList := by
  intro piece membership
  obtain ⟨chars, inPieces, rfl⟩ := List.mem_map.mp membership
  rw [String.toList_ofList]
  exact splitChars_free separator text.toList chars inPieces

theorem split_of_not_mem {separator : Char} {text : String} (free : separator ∉ text.toList) :
    split separator text = [text] := by
  simp [split, splitChars_of_not_mem free]

theorem split_append {separator : Char} {first : String} (rest : String)
    (free : separator ∉ first.toList) :
    split separator (String.ofList (first.toList ++ separator :: rest.toList)) =
      first :: split separator rest := by
  simp [split, splitChars_append _ free]

theorem split_three {separator : Char} {first second third : String}
    (firstFree : separator ∉ first.toList) (secondFree : separator ∉ second.toList)
    (thirdFree : separator ∉ third.toList) :
    split separator (String.ofList (first.toList ++ separator :: (second.toList ++
      separator :: third.toList))) = [first, second, third] := by
  simp [split, splitChars_append _ firstFree, splitChars_append _ secondFree,
    splitChars_of_not_mem thirdFree]

theorem append_separator_inj {separator : Char} {first second other another : List Char}
    (firstFree : separator ∉ first) (otherFree : separator ∉ other)
    (same : first ++ separator :: second = other ++ separator :: another) :
    first = other ∧ second = another := by
  induction first generalizing other with
  | nil =>
      cases other with
      | nil => exact ⟨rfl, (List.cons.inj same).2⟩
      | cons char rest =>
          have isChar := (List.cons.inj same).1
          exact absurd (isChar ▸ List.mem_cons_self) otherFree
  | cons char rest inductionHypothesis =>
      cases other with
      | nil =>
          have isChar := (List.cons.inj same).1
          exact absurd (isChar ▸ List.mem_cons_self) firstFree
      | cons otherChar otherRest =>
          obtain ⟨isChar, sameRest⟩ := List.cons.inj same
          obtain ⟨restSame, secondSame⟩ := inductionHypothesis
            (fun membership => firstFree (List.mem_cons_of_mem char membership))
            (fun membership => otherFree (List.mem_cons_of_mem otherChar membership)) sameRest
          exact ⟨by rw [isChar, restSame], secondSame⟩

/-! ## Replacing -/

/-- `skip` characters of a match are still to be dropped. -/
def replaceFrom (pattern replacement : List Char) : List Char → Nat → List Char
  | [], _ => []
  | _ :: rest, skip + 1 => replaceFrom pattern replacement rest skip
  | char :: rest, 0 =>
      if pattern.isPrefixOf (char :: rest) then
        replacement ++ replaceFrom pattern replacement rest (pattern.length - 1)
      else char :: replaceFrom pattern replacement rest 0

/-- `str::replace` with a nonempty pattern. -/
def replace (pattern replacement text : String) : String :=
  String.ofList (replaceFrom pattern.toList replacement.toList text.toList 0)

theorem replaceFrom_append (pattern replacement dropped text : List Char) :
    replaceFrom pattern replacement (dropped ++ text) dropped.length =
      replaceFrom pattern replacement text 0 := by
  induction dropped with
  | nil => rfl
  | cons char rest inductionHypothesis => exact inductionHypothesis

theorem replaceFrom_of_not_infix {pattern replacement text : List Char}
    (absent : ¬pattern <:+: text) : replaceFrom pattern replacement text 0 = text := by
  induction text with
  | nil => rfl
  | cons char rest inductionHypothesis =>
      have elsewhere : ¬pattern <:+: rest := fun found =>
        absent (found.trans (List.suffix_cons char rest).isInfix)
      have here : ¬pattern.isPrefixOf (char :: rest) = true := fun found =>
        absent (List.isPrefixOf_iff_prefix.mp found).isInfix
      rw [replaceFrom, if_neg here, inductionHypothesis elsewhere]

theorem replace_of_not_infix {pattern text : String} (replacement : String)
    (absent : ¬pattern.toList <:+: text.toList) : replace pattern replacement text = text := by
  rw [replace, replaceFrom_of_not_infix absent, String.ofList_toList]

/-! ## Escaping a character -/

section Escape

variable {mark lead : Char} {rest : List Char}

theorem replaceFrom_mark (mark : Char) (escape : List Char) (char : Char) (text : List Char) :
    replaceFrom [mark] escape (char :: text) 0 =
      (if char = mark then escape else [char]) ++ replaceFrom [mark] escape text 0 := by
  rw [replaceFrom]
  by_cases same : char = mark
  · simp [same]
  · have other : ¬mark = char := Ne.symm same
    simp [same, other]

theorem mark_not_mem_escaped {escape : List Char} (free : mark ∉ escape) (text : List Char) :
    mark ∉ replaceFrom [mark] escape text 0 := by
  induction text with
  | nil => exact List.not_mem_nil
  | cons char text inductionHypothesis =>
      rw [replaceFrom_mark, List.mem_append]
      rintro (here | later)
      · by_cases same : char = mark
        · rw [if_pos same] at here
          exact free here
        · rw [if_neg same, List.mem_singleton] at here
          exact same here.symm
      · exact inductionHypothesis later

/-- The tail of an escape is found after escaping only where it was before. -/
theorem prefix_of_prefix_escaped {tail text : List Char} (leadFree : lead ∉ tail)
    (found : tail <+: replaceFrom [mark] (lead :: rest) text 0) : tail <+: text := by
  induction tail generalizing text with
  | nil => exact List.nil_prefix
  | cons first tail inductionHypothesis =>
      cases text with
      | nil => exact absurd found (by simp [replaceFrom])
      | cons char text =>
          rw [replaceFrom_mark] at found
          by_cases same : char = mark
          · rw [if_pos same, List.cons_append, List.cons_prefix_cons] at found
            exact absurd (found.1 ▸ List.mem_cons_self) leadFree
          · rw [if_neg same, List.singleton_append, List.cons_prefix_cons] at found
            refine List.cons_prefix_cons.mpr ⟨found.1, inductionHypothesis ?_ found.2⟩
            exact fun later => leadFree (List.mem_cons_of_mem first later)

/-- What an escape stands for comes back, if the text had no escape of its own: an escape
begins where a mark was, since its first character occurs in it once. -/
theorem unescape_escape (leadFree : lead ∉ rest) {text : List Char}
    (absent : ¬(lead :: rest) <:+: text) :
    replaceFrom (lead :: rest) [mark] (replaceFrom [mark] (lead :: rest) text 0) 0 = text := by
  induction text with
  | nil => rfl
  | cons char text inductionHypothesis =>
      have elsewhere : ¬(lead :: rest) <:+: text := fun found =>
        absent (found.trans (List.suffix_cons char text).isInfix)
      rw [replaceFrom_mark]
      by_cases same : char = mark
      · have found : (lead :: rest).isPrefixOf
            (lead :: (rest ++ replaceFrom [mark] (lead :: rest) text 0)) = true :=
          List.isPrefixOf_iff_prefix.mpr (List.prefix_append (lead :: rest) _)
        rw [if_pos same, List.cons_append, replaceFrom, if_pos found, List.length_cons,
          Nat.add_sub_cancel, replaceFrom_append, inductionHypothesis elsewhere, same]
        rfl
      · have here : ¬(lead :: rest).isPrefixOf
            (char :: replaceFrom [mark] (lead :: rest) text 0) = true := by
          intro found
          obtain ⟨isLead, inside⟩ :=
            List.cons_prefix_cons.mp (List.isPrefixOf_iff_prefix.mp found)
          apply absent
          refine (List.cons_prefix_cons.mpr ⟨isLead, ?_⟩).isInfix
          exact prefix_of_prefix_escaped leadFree inside
        rw [if_neg same, List.singleton_append, replaceFrom, if_neg here,
          inductionHypothesis elsewhere]

variable {escape markText : String}

theorem mark_not_mem_replace (single : markText.toList = [mark]) (free : mark ∉ escape.toList)
    (text : String) : mark ∉ (replace markText escape text).toList := by
  rw [replace, String.toList_ofList, single]
  exact mark_not_mem_escaped free text.toList

theorem replace_replace (single : markText.toList = [mark]) (begins : escape.toList = lead :: rest)
    (leadFree : lead ∉ rest) {text : String} (absent : ¬escape.toList <:+: text.toList) :
    replace escape markText (replace markText escape text) = text := by
  rw [begins] at absent
  rw [replace, replace, String.toList_ofList, single, begins, unescape_escape leadFree absent,
    String.ofList_toList]

end Escape

def dropPrefix : List Char → List Char → Option (List Char)
  | [], text => some text
  | _ :: _, [] => none
  | char :: rest, other :: text => if char = other then dropPrefix rest text else none

/-- `str::strip_prefix`. -/
def stripPrefix (front text : String) : Option String :=
  (dropPrefix front.toList text.toList).map String.ofList

@[simp]
theorem stripPrefix_append (front text : String) :
    stripPrefix front (front ++ text) = some text := by
  have dropped : ∀ chars rest : List Char, dropPrefix chars (chars ++ rest) = some rest := by
    intro chars rest
    induction chars with
    | nil => rfl
    | cons char chars inductionHypothesis => simp [dropPrefix, inductionHypothesis]
  simp [stripPrefix, String.toList_append, dropped]

/-- `char::is_whitespace` on the characters an HTTP header value may contain. -/
def isBlank (char : Char) : Bool := char = ' ' || char = '\t'

/-- `str::trim`. -/
def trim (text : String) : String :=
  String.ofList (((text.toList.dropWhile isBlank).reverse.dropWhile isBlank).reverse)

end FederatedCatalog.Foundation
