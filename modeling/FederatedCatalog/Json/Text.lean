import FederatedCatalog.Json.Value
import Mathlib.Data.List.Basic

/-!
# JSON text

A writer and a reader of compact JSON.  The reader skips white space and takes
fuel for the values on its way; the length of the text is enough to read back
everything that was written.
-/

namespace FederatedCatalog.Json.Text

open Foundation

/-! ## Strings -/

/-- Characters with an escape of their own, and the letter after the backslash. -/
def escapes : List (Char × Char) :=
  [('"', '"'), ('\\', '\\'), ('\n', 'n'), ('\r', 'r'), ('\t', 't'),
    (Char.ofNat 8, 'b'), (Char.ofNat 12, 'f')]

def unescape (letter : Char) : Option Char :=
  if letter = '/' then some '/' else (escapes.find? (·.2 = letter)).map Prod.fst

def writeChar (char : Char) : List Char :=
  match escapes.lookup char with
  | some letter => ['\\', letter]
  | none =>
      if char.toNat < 32 then
        ['\\', 'u', '0', '0', Nat.digitChar (char.toNat / 16), Nat.digitChar (char.toNat % 16)]
      else [char]

def readHex (first second third fourth : Char) : Option Char := do
  let first ← hexValue first
  let second ← hexValue second
  let third ← hexValue third
  let fourth ← hexValue fourth
  let code := 4096 * first + 256 * second + 16 * third + fourth
  if code.isValidChar then some (Char.ofNat code) else none

def readChars : List Char → Option (List Char × List Char)
  | [] => none
  | '"' :: rest => some ([], rest)
  | '\\' :: 'u' :: first :: second :: third :: fourth :: rest =>
      match readHex first second third fourth, readChars rest with
      | some char, some read => some (char :: read.1, read.2)
      | _, _ => none
  | '\\' :: letter :: rest =>
      match unescape letter with
      | some char => (readChars rest).map fun read => (char :: read.1, read.2)
      | none => none
  | char :: rest =>
      if char = '\\' ∨ char.toNat < 32 then none
      else (readChars rest).map fun read => (char :: read.1, read.2)

theorem readHex_control : ∀ code < 32,
    readHex '0' '0' (Nat.digitChar (code / 16)) (Nat.digitChar (code % 16)) =
      some (Char.ofNat code) := by
  decide

theorem unescape_letter :
    ∀ escape ∈ escapes, escape.2 ≠ 'u' ∧ unescape escape.2 = some escape.1 := by
  decide

theorem readChars_writeChar (char : Char) (rest : List Char) :
    readChars (writeChar char ++ rest) =
      (readChars rest).map fun read => (char :: read.1, read.2) := by
  unfold writeChar
  cases known : escapes.lookup char with
  | some letter =>
      obtain ⟨before, after, split, _⟩ := List.lookup_eq_some_iff.mp known
      have listed : (char, letter) ∈ escapes := by simp [split]
      obtain ⟨notCode, inverse⟩ := unescape_letter _ listed
      simp only [List.cons_append, List.nil_append]
      rw [readChars]
      · rw [inverse]
      · intro first second third fourth others isCode
        exact absurd isCode notCode
  | none =>
      by_cases control : char.toNat < 32
      · have code := readHex_control char.toNat control
        simp only [control, ↓reduceIte, List.cons_append, List.nil_append, readChars, code,
          Char.ofNat_toNat]
        cases readChars rest <;> rfl
      · have notQuote : char ≠ '"' := by
          rintro rfl
          revert known
          decide
        have notBackslash : char ≠ '\\' := by
          rintro rfl
          revert known
          decide
        simp only [control, ↓reduceIte, List.cons_append, List.nil_append]
        rw [readChars]
        · simp [control, notBackslash]
        all_goals simp_all

def writeChars (chars : List Char) : List Char := chars.flatMap writeChar ++ ['"']

theorem readChars_writeChars (chars rest : List Char) :
    readChars (writeChars chars ++ rest) = some (chars, rest) := by
  induction chars with
  | nil => rfl
  | cons char chars inductionHypothesis =>
      have unfolded : writeChars (char :: chars) ++ rest =
          writeChar char ++ (writeChars chars ++ rest) := by
        simp [writeChars]
      rw [unfolded, readChars_writeChar, inductionHypothesis]
      rfl

/-! ## Values -/

def openBrace : Char := Char.ofNat 123

def closeBrace : Char := Char.ofNat 125

mutual

def write : Value → List Char
  | .null => "null".toList
  | .bool true => "true".toList
  | .bool false => "false".toList
  | .number (.posInt value) => Nat.toDigits 10 value
  | .number (.negInt magnitude) => '-' :: Nat.toDigits 10 (magnitude + 1)
  | .number .float => "0.0".toList
  | .string text => '"' :: writeChars text.toList
  | .array [] => ['[', ']']
  | .array (item :: rest) => '[' :: (write item ++ writeItems rest)
  | .object [] => [openBrace, closeBrace]
  | .object (member :: rest) => openBrace :: (writeMember member ++ writeMembers rest)

def writeItems : List Value → List Char
  | [] => [']']
  | item :: rest => ',' :: (write item ++ writeItems rest)

def writeMember : String × Value → List Char
  | (key, value) => '"' :: (writeChars key.toList ++ ':' :: write value)

def writeMembers : List (String × Value) → List Char
  | [] => [closeBrace]
  | member :: rest => ',' :: (writeMember member ++ writeMembers rest)

end

def isSpace (char : Char) : Bool := char = ' ' || char = '\n' || char = '\r' || char = '\t'

def skipSpace (text : List Char) : List Char := text.dropWhile isSpace

/-- An integer that fits no `u64` is a float. -/
def positive (value : Nat) : Number := if value < 2 ^ 64 then .posInt value else .float

/-- `-0` and an integer that fits no `i64` are floats. -/
def negative : Nat → Number
  | 0 => .float
  | magnitude + 1 => if magnitude < 2 ^ 63 then .negInt magnitude else .float

def readNumber (text : List Char) : Option (Number × List Char) :=
  match text with
  | '-' :: rest =>
      if rest.takeWhile Char.isDigit = [] then none
      else some (negative (Nat.ofDigitChars 10 (rest.takeWhile Char.isDigit) 0),
        rest.dropWhile Char.isDigit)
  | _ =>
      if text.takeWhile Char.isDigit = [] then none
      else some (positive (Nat.ofDigitChars 10 (text.takeWhile Char.isDigit) 0),
        text.dropWhile Char.isDigit)

def readKey (text : List Char) : Option (String × List Char) :=
  match text with
  | '"' :: rest =>
      match readChars rest with
      | none => none
      | some (key, rest) =>
          match skipSpace rest with
          | ':' :: rest => some (String.ofList key, rest)
          | _ => none
  | _ => none

def readWord (text : List Char) : Option (Value × List Char) :=
  match text with
  | 'n' :: 'u' :: 'l' :: 'l' :: rest => some (.null, rest)
  | 't' :: 'r' :: 'u' :: 'e' :: rest => some (.bool true, rest)
  | 'f' :: 'a' :: 'l' :: 's' :: 'e' :: rest => some (.bool false, rest)
  | _ => (readNumber text).map fun read => (.number read.1, read.2)

mutual

/-- The fuel bounds the number of values on the way. -/
def read : Nat → List Char → Option (Value × List Char)
  | 0, _ => none
  | fuel + 1, text =>
      match skipSpace text with
      | [] => none
      | char :: rest =>
          if char = '"' then
            (readChars rest).map fun read => (.string (String.ofList read.1), read.2)
          else if char = '[' then
            if (skipSpace rest).head? = some ']' then some (.array [], (skipSpace rest).tail)
            else (readItems fuel rest).map fun read => (.array read.1, read.2)
          else if char = openBrace then
            if (skipSpace rest).head? = some closeBrace then
              some (.object [], (skipSpace rest).tail)
            else (readMembers fuel rest).map fun read => (.object read.1, read.2)
          else readWord (char :: rest)

def readItems : Nat → List Char → Option (List Value × List Char)
  | 0, _ => none
  | fuel + 1, text =>
      match read fuel text with
      | none => none
      | some (item, rest) =>
          match skipSpace rest with
          | [] => none
          | char :: rest =>
              if char = ']' then some ([item], rest)
              else if char = ',' then
                (readItems fuel rest).map fun read => (item :: read.1, read.2)
              else none

def readMembers : Nat → List Char → Option (List (String × Value) × List Char)
  | 0, _ => none
  | fuel + 1, text =>
      match readKey (skipSpace text) with
      | none => none
      | some (key, rest) =>
          match read fuel rest with
          | none => none
          | some (value, rest) =>
              match skipSpace rest with
              | [] => none
              | char :: rest =>
                  if char = closeBrace then some ([(key, value)], rest)
                  else if char = ',' then
                    (readMembers fuel rest).map fun read => ((key, value) :: read.1, read.2)
                  else none

end

/-! ## Reading back -/

theorem skipSpace_cons {char : Char} (text : List Char) (solid : isSpace char = false) :
    skipSpace (char :: text) = char :: text := by
  simp [skipSpace, solid]

def Ends (rest : List Char) : Prop := ∀ char ∈ rest.head?, char.isDigit = false

theorem readDigits (value : Nat) {rest : List Char} (ends : Ends rest) :
    (Nat.toDigits 10 value ++ rest).takeWhile Char.isDigit = Nat.toDigits 10 value ∧
      (Nat.toDigits 10 value ++ rest).dropWhile Char.isDigit = rest := by
  have digits : ∀ char ∈ Nat.toDigits 10 value, char.isDigit = true :=
    fun char membership => Nat.isDigit_of_mem_toDigits (by omega) (by omega) membership
  rw [List.takeWhile_append_of_pos digits, List.dropWhile_append_of_pos digits]
  cases rest with
  | nil => simp
  | cons char rest =>
      have stops : char.isDigit = false := ends char (by simp)
      simp [stops]

theorem toDigits_eq_cons (value : Nat) :
    ∃ digit others, Nat.toDigits 10 value = digit :: others ∧ digit.isDigit = true := by
  cases digits : Nat.toDigits 10 value with
  | nil => exact absurd digits Nat.toDigits_ne_nil
  | cons digit others =>
      refine ⟨digit, others, rfl, ?_⟩
      exact Nat.isDigit_of_mem_toDigits (b := 10) (n := value) (by omega) (by omega)
        (by simp [digits])

theorem positive_eq {value : Nat} (fits : value < 2 ^ 64) : positive value = .posInt value :=
  if_pos fits

theorem negative_eq {magnitude : Nat} (fits : magnitude < 2 ^ 63) :
    negative (magnitude + 1) = .negInt magnitude :=
  if_pos fits

theorem read_posInt {value : Nat} (fits : value < 2 ^ 64) (fuel : Nat) {rest : List Char}
    (ends : Ends rest) : read (fuel + 1) (Nat.toDigits 10 value ++ rest) =
      some (.number (.posInt value), rest) := by
  obtain ⟨digit, others, digits, isDigit⟩ := toDigits_eq_cons value
  obtain ⟨taken, dropped⟩ := readDigits value ends
  have other : ∀ char : Char, char.isDigit = false → digit ≠ char := by
    rintro char notDigit rfl
    rw [isDigit] at notDigit
    cases notDigit
  have number : readNumber (Nat.toDigits 10 value ++ rest) = some (.posInt value, rest) := by
    unfold readNumber
    split
    · next negative =>
      rw [digits] at negative
      cases negative
      exact absurd rfl (other '-' (by decide))
    · rw [taken, dropped]
      simp [Nat.ofDigitChars_ten_toDigits, positive_eq fits]
  have word : readWord (Nat.toDigits 10 value ++ rest) =
      some (.number (.posInt value), rest) := by
    unfold readWord
    split
    case h_4 => rw [number]; rfl
    all_goals
      next shape =>
      rw [digits, List.cons_append] at shape
      exact absurd (List.cons.inj shape).1 (other _ (by decide))
  have solid : isSpace digit = false := by
    simp [isSpace, other ' ' (by decide), other '\n' (by decide), other '\r' (by decide),
      other '\t' (by decide)]
  rw [digits, List.cons_append] at word ⊢
  simp [read, skipSpace_cons _ solid, other '"' (by decide), other '[' (by decide),
    other openBrace (by decide), word]

theorem read_negInt {magnitude : Nat} (fits : magnitude < 2 ^ 63) (fuel : Nat)
    {rest : List Char} (ends : Ends rest) :
    read (fuel + 1) ('-' :: (Nat.toDigits 10 (magnitude + 1) ++ rest)) =
      some (.number (.negInt magnitude), rest) := by
  obtain ⟨taken, dropped⟩ := readDigits (magnitude + 1) ends
  have number : readNumber ('-' :: (Nat.toDigits 10 (magnitude + 1) ++ rest)) =
      some (.negInt magnitude, rest) := by
    simp [readNumber, taken, dropped, Nat.ofDigitChars_ten_toDigits, negative_eq fits]
  have solid : isSpace '-' = false := by decide
  simp [read, skipSpace_cons _ solid, readWord, number, openBrace]

theorem write_eq_cons (value : Value) :
    ∃ char others, write value = char :: others ∧ isSpace char = false ∧ char ≠ ']' := by
  have ofDigits : ∀ number : Nat, ∃ char others,
      Nat.toDigits 10 number = char :: others ∧ isSpace char = false ∧ char ≠ ']' := by
    intro number
    obtain ⟨digit, others, digits, isDigit⟩ := toDigits_eq_cons number
    refine ⟨digit, others, digits, ?_, ?_⟩
    · by_contra space
      simp only [isSpace, Bool.not_eq_false, Bool.or_eq_true, decide_eq_true_eq] at space
      rcases space with ((rfl | rfl) | rfl) | rfl <;> revert isDigit <;> decide
    · rintro rfl
      revert isDigit
      decide
  cases value with
  | null => exact ⟨_, _, rfl, by decide, by decide⟩
  | bool value => cases value <;> exact ⟨_, _, rfl, by decide, by decide⟩
  | string text => exact ⟨_, _, by rw [write], by decide, by decide⟩
  | array items => cases items <;> exact ⟨_, _, by rw [write], by decide, by decide⟩
  | object members => cases members <;> exact ⟨_, _, by rw [write], by decide, by decide⟩
  | number number =>
      cases number with
      | posInt value => simpa [write] using ofDigits value
      | negInt magnitude => exact ⟨_, _, by rw [write], by decide, by decide⟩
      | float => exact ⟨_, _, by rw [write]; rfl, by decide, by decide⟩

def ReadsBack (value : Value) : Prop :=
  ∀ fuel rest, (write value).length ≤ fuel → Ends rest →
    read fuel (write value ++ rest) = some (value, rest)

theorem ends_cons {char : Char} (text : List Char) (solid : char.isDigit = false) :
    Ends (char :: text) := by
  intro other first
  cases first
  exact solid

theorem length_write_pos (value : Value) : 0 < (write value).length := by
  obtain ⟨char, others, shape, _⟩ := write_eq_cons value
  simp [shape]

theorem readItems_write (item : Value) (items : List Value)
    (reads : ∀ other ∈ item :: items, ReadsBack other) :
    ∀ fuel rest, (write item ++ writeItems items).length ≤ fuel →
      readItems fuel (write item ++ (writeItems items ++ rest)) = some (item :: items, rest) := by
  induction items generalizing item with
  | nil =>
      intro fuel rest enough
      simp only [writeItems, List.length_append, List.length_singleton] at enough
      obtain ⟨fuel, rfl⟩ : ∃ before, fuel = before + 1 := ⟨fuel - 1, by omega⟩
      have first := reads item List.mem_cons_self fuel (']' :: rest) (by omega)
        (ends_cons rest (by decide))
      have solid : isSpace ']' = false := by decide
      simp [writeItems, readItems, first, skipSpace_cons rest solid]
  | cons next items inductionHypothesis =>
      intro fuel rest enough
      have some_item := length_write_pos item
      simp only [writeItems, List.length_append, List.length_cons] at enough
      obtain ⟨fuel, rfl⟩ : ∃ before, fuel = before + 1 := ⟨fuel - 1, by omega⟩
      have first := reads item List.mem_cons_self fuel
        (',' :: (write next ++ (writeItems items ++ rest))) (by omega)
        (ends_cons _ (by decide))
      have others := inductionHypothesis next
        (fun other membership => reads other (List.mem_cons_of_mem item membership)) fuel rest
        (by simp only [List.length_append]; omega)
      have solid : isSpace ',' = false := by decide
      simp [writeItems, readItems, first, skipSpace_cons _ solid, others]

theorem readKey_write (key : String) (rest : List Char) :
    readKey ('"' :: (writeChars key.toList ++ ':' :: rest)) = some (key, rest) := by
  have solid : isSpace ':' = false := by decide
  simp [readKey, readChars_writeChars, skipSpace_cons rest solid]

theorem writeMember_eq (member : String × Value) :
    writeMember member = '"' :: (writeChars member.1.toList ++ ':' :: write member.2) := by
  cases member
  rw [writeMember]

theorem readMembers_write (member : String × Value) (members : List (String × Value))
    (reads : ∀ other ∈ member :: members, ReadsBack other.2) :
    ∀ fuel rest, (writeMember member ++ writeMembers members).length ≤ fuel →
      readMembers fuel (writeMember member ++ (writeMembers members ++ rest)) =
        some (member :: members, rest) := by
  have quote : isSpace '"' = false := by decide
  induction members generalizing member with
  | nil =>
      intro fuel rest enough
      simp only [writeMembers, writeMember_eq, List.length_append, List.length_cons,
        List.length_nil] at enough
      obtain ⟨fuel, rfl⟩ : ∃ before, fuel = before + 1 := ⟨fuel - 1, by omega⟩
      have value := reads member List.mem_cons_self fuel (closeBrace :: rest) (by omega)
        (ends_cons rest (by decide))
      have solid : isSpace closeBrace = false := by decide
      simp [writeMembers, writeMember_eq, readMembers, skipSpace_cons _ quote, readKey_write, value,
        skipSpace_cons rest solid]
  | cons next members inductionHypothesis =>
      intro fuel rest enough
      have longer : (writeMember next ++ writeMembers members).length + 1 +
          (write member.2).length < fuel := by
        simp only [writeMembers, writeMember_eq, List.length_append, List.length_cons] at enough ⊢
        omega
      obtain ⟨fuel, rfl⟩ : ∃ before, fuel = before + 1 := ⟨fuel - 1, by omega⟩
      have value := reads member List.mem_cons_self fuel
        (',' :: (writeMember next ++ (writeMembers members ++ rest))) (by omega)
        (ends_cons _ (by decide))
      have others := inductionHypothesis next
        (fun other membership => reads other (List.mem_cons_of_mem member membership)) fuel rest
        (by omega)
      have solid : isSpace ',' = false := by decide
      have notClose : (',' : Char) ≠ closeBrace := by decide
      have shape : writeMember member ++ (writeMembers (next :: members) ++ rest) =
          '"' :: (writeChars member.1.toList ++ ':' :: (write member.2 ++
            (',' :: (writeMember next ++ (writeMembers members ++ rest))))) := by
        simp [writeMembers, writeMember_eq]
      rw [shape]
      simp [readMembers, skipSpace_cons _ quote, readKey_write, value, skipSpace_cons _ solid,
        notClose, others]

def PartsReadBack : Value → Prop
  | .number numeral => numeral.IsInteger
  | .array items => ∀ item ∈ items, ReadsBack item
  | .object members => ∀ member ∈ members, ReadsBack member.2
  | _ => True

theorem read_array {items : List Value} (parts : ∀ item ∈ items, ReadsBack item) (fuel : Nat)
    (rest : List Char) (enough : (write (.array items)).length ≤ fuel + 1) :
    read (fuel + 1) (write (.array items) ++ rest) = some (.array items, rest) := by
  have bracket : isSpace '[' = false := by decide
  cases items with
  | nil =>
      have solid : isSpace ']' = false := by decide
      simp [write, read, skipSpace_cons _ bracket, skipSpace_cons _ solid]
  | cons item items =>
      obtain ⟨char, others, shape, notSpace, notClose⟩ := write_eq_cons item
      have first : skipSpace (write item ++ (writeItems items ++ rest)) =
          write item ++ (writeItems items ++ rest) := by
        rw [shape, List.cons_append, skipSpace_cons _ notSpace]
      have open_items : (write item ++ (writeItems items ++ rest)).head? ≠ some ']' := by
        simp [shape, notClose]
      simp only [write, List.length_cons] at enough
      have items_read := readItems_write item items parts fuel rest (by omega)
      simp only [write, List.cons_append, List.append_assoc, read,
        skipSpace_cons _ bracket, first, if_neg open_items, items_read]
      rfl

theorem read_object {members : List (String × Value)}
    (parts : ∀ member ∈ members, ReadsBack member.2) (fuel : Nat) (rest : List Char)
    (enough : (write (.object members)).length ≤ fuel + 1) :
    read (fuel + 1) (write (.object members) ++ rest) = some (.object members, rest) := by
  have brace : isSpace openBrace = false := by decide
  have notQuote : openBrace ≠ '"' := by decide
  have notBracket : openBrace ≠ '[' := by decide
  cases members with
  | nil =>
      have solid : isSpace closeBrace = false := by decide
      simp [write, read, skipSpace_cons _ brace, skipSpace_cons _ solid, notQuote, notBracket]
  | cons member members =>
      have quote : isSpace '"' = false := by decide
      have notClose : ('"' : Char) ≠ closeBrace := by decide
      have first : skipSpace (writeMember member ++ (writeMembers members ++ rest)) =
          writeMember member ++ (writeMembers members ++ rest) := by
        rw [writeMember_eq, List.cons_append, skipSpace_cons _ quote]
      have open_members :
          (writeMember member ++ (writeMembers members ++ rest)).head? ≠ some closeBrace := by
        simp [writeMember_eq, notClose]
      simp only [write, List.length_cons] at enough
      have members_read := readMembers_write member members parts fuel rest (by omega)
      simp only [write, List.cons_append, List.append_assoc, read, skipSpace_cons _ brace,
        if_neg notQuote, if_neg notBracket, first, if_neg open_members, members_read]
      rfl

theorem readsBack_of_parts (value : Value) (parts : PartsReadBack value) : ReadsBack value := by
  intro fuel rest enough ends
  have nonempty := length_write_pos value
  obtain ⟨fuel, rfl⟩ : ∃ before, fuel = before + 1 := ⟨fuel - 1, by omega⟩
  cases value with
  | null => rfl
  | bool value => cases value <;> rfl
  | string text =>
      have quote : isSpace '"' = false := by decide
      simp [write, read, skipSpace_cons _ quote, readChars_writeChars]
  | number number =>
      cases number with
      | posInt value => simpa [write] using read_posInt parts fuel ends
      | negInt magnitude => simpa [write] using read_negInt parts fuel ends
      | float => exact parts.elim
  | array items => exact read_array parts fuel rest enough
  | object members => exact read_object parts fuel rest enough

theorem readsBack (depth : Nat) : ∀ value : Value, value.PlainWithin depth → ReadsBack value := by
  induction depth with
  | zero =>
      intro value plain
      apply readsBack_of_parts
      cases value with
      | array items => exact plain.elim
      | object members => exact plain.elim
      | number numeral => exact plain
      | null | bool value | string text => trivial
  | succ depth inductionHypothesis =>
      intro value plain
      apply readsBack_of_parts
      cases value with
      | array items => exact fun item membership => inductionHypothesis item (plain item membership)
      | object members =>
          exact fun member membership => inductionHypothesis member.2 (plain.2 member membership)
      | number numeral => exact plain
      | null | bool value | string text => trivial

/-- A repeated member takes the place of the earlier ones. -/
def lastWins : List (String × Value) → List (String × Value)
  | [] => []
  | member :: rest =>
      if member.1 ∈ rest.map Prod.fst then lastWins rest else member :: lastWins rest

theorem lastWins_of_nodup {members : List (String × Value)}
    (distinct : (members.map Prod.fst).Nodup) : lastWins members = members := by
  induction members with
  | nil => rfl
  | cons member rest inductionHypothesis =>
      obtain ⟨fresh, distinct⟩ := List.nodup_cons.mp distinct
      rw [lastWins, if_neg fresh, inductionHypothesis distinct]

mutual

/-- The value that a tree stands for at the type `Value`. -/
def settle : Value → Value
  | .array items => .array (settleItems items)
  | .object members => .object (lastWins (settleMembers members))
  | value => value

def settleItems : List Value → List Value
  | [] => []
  | item :: rest => settle item :: settleItems rest

def settleMembers : List (String × Value) → List (String × Value)
  | [] => []
  | member :: rest => settleMember member :: settleMembers rest

def settleMember : String × Value → String × Value
  | (key, value) => (key, settle value)

end

theorem settleItems_eq {items : List Value} (settled : ∀ item ∈ items, settle item = item) :
    settleItems items = items := by
  induction items with
  | nil => rfl
  | cons item rest inductionHypothesis =>
      rw [settleItems, settled item List.mem_cons_self,
        inductionHypothesis fun other listed => settled other (List.mem_cons_of_mem item listed)]

theorem settleMembers_eq {members : List (String × Value)}
    (settled : ∀ member ∈ members, settle member.2 = member.2) :
    settleMembers members = members := by
  induction members with
  | nil => rfl
  | cons member rest inductionHypothesis =>
      have first : settleMember member = member := by
        rw [settleMember, settled member List.mem_cons_self]
      rw [settleMembers, first,
        inductionHypothesis fun other listed => settled other (List.mem_cons_of_mem member listed)]

theorem settle_of_plain (depth : Nat) :
    ∀ value : Value, value.PlainWithin depth → settle value = value := by
  induction depth with
  | zero =>
      intro value plain
      cases value with
      | array items => exact plain.elim
      | object members => exact plain.elim
      | null | bool value | string text | number numeral => rfl
  | succ depth inductionHypothesis =>
      intro value plain
      cases value with
      | array items =>
          rw [settle, settleItems_eq fun item listed => inductionHypothesis item (plain item listed)]
      | object members =>
          obtain ⟨distinct, plain⟩ := plain
          rw [settle, settleMembers_eq fun member listed =>
            inductionHypothesis member.2 (plain member listed), lastWins_of_nodup distinct]
      | null | bool value | string text | number numeral => rfl

def parse (bytes : List UInt8) : Except String Value :=
  match fromUtf8 bytes with
  | none => .error "invalid UTF-8"
  | some text =>
      match read text.length text.toList with
      | some (value, rest) =>
          if skipSpace rest = [] then .ok value else .error "trailing characters"
      | none => .error "expected value"

theorem parse_write {value : Value} (plain : value.PlainWithin 127) :
    parse (utf8 (String.ofList (write value))) = .ok value := by
  have back := readsBack 127 value plain (write value).length [] (Nat.le_refl _)
    (by simp [Ends])
  rw [List.append_nil] at back
  simp [parse, back, skipSpace]

/-- Compact JSON without fractions, as `serde_json` writes and reads it. -/
def format : TextFormat where
  print value := String.ofList (write value)
  fromSlice bytes := (parse bytes).map settle
  fromSlice_print value plain := by
    rw [parse_write plain]
    exact congrArg Except.ok (settle_of_plain 127 value plain)
  tree := parse
  tree_print _ := parse_write
  mismatch _ := "invalid type"

end FederatedCatalog.Json.Text
