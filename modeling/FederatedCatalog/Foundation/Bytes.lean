import Mathlib.Data.List.Basic

/-!
# Bytes as text

UTF-8, hexadecimal digits, percent-encoding and unpadded URL-safe base64, each
with the fact that decoding undoes encoding.
-/

namespace FederatedCatalog.Foundation

/-! ## UTF-8 -/

/-- `str::as_bytes`. -/
def utf8 (text : String) : List UInt8 := text.toUTF8.data.toList

/-- `str::from_utf8`. -/
def fromUtf8 (bytes : List UInt8) : Option String := String.fromUTF8? ⟨bytes.toArray⟩

@[simp]
theorem fromUtf8_utf8 (text : String) : fromUtf8 (utf8 text) = some text := by
  have whole : (⟨(utf8 text).toArray⟩ : ByteArray) = text.toUTF8 := by simp [utf8]
  rw [fromUtf8, whole, String.fromUTF8?]
  exact dif_pos text.isValidUTF8

/-! ## Hexadecimal digits -/

def hexValue (digit : Char) : Option Nat :=
  if digit.isDigit then some (digit.toNat - 48)
  else if 97 ≤ digit.toNat ∧ digit.toNat ≤ 102 then some (digit.toNat - 87)
  else if 65 ≤ digit.toNat ∧ digit.toNat ≤ 70 then some (digit.toNat - 55)
  else none

def upperHexDigit (value : Nat) : Char := (Nat.digitChar value).toUpper

/-! ## Percent-encoding -/

namespace Percent

def unreserved (char : Char) : Bool :=
  char.isAlphanum || char = '-' || char = '.' || char = '_' || char = '~'

def encodeByte (byte : UInt8) : List Char :=
  if unreserved (Char.ofNat byte.toNat) then [Char.ofNat byte.toNat]
  else ['%', upperHexDigit (byte.toNat / 16), upperHexDigit (byte.toNat % 16)]

def encode (text : String) : String := String.ofList ((utf8 text).flatMap encodeByte)

def decodeBytes : List Char → Option (List UInt8)
  | [] => some []
  | '%' :: high :: low :: rest =>
      match hexValue high, hexValue low, decodeBytes rest with
      | some high, some low, some bytes => some (UInt8.ofNat (16 * high + low) :: bytes)
      | _, _, _ => none
  | char :: rest => (decodeBytes rest).map fun bytes => UInt8.ofNat char.toNat :: bytes

def decode (text : String) : Option String := (decodeBytes text.toList).bind fromUtf8

theorem hexValue_upperHexDigit : ∀ value < 16, hexValue (upperHexDigit value) = some value := by
  decide

theorem toNat_ofNat_byte (byte : UInt8) : (Char.ofNat byte.toNat).toNat = byte.toNat := by
  have bound : byte.toNat < 256 := byte.toNat_lt
  have valid : byte.toNat.isValidChar := .inl (by omega)
  rw [Char.ofNat, dif_pos valid]
  rfl

theorem decodeBytes_encodeByte (byte : UInt8) (rest : List Char) :
    decodeBytes (encodeByte byte ++ rest) = (decodeBytes rest).map (byte :: ·) := by
  have bound : byte.toNat < 256 := byte.toNat_lt
  unfold encodeByte
  split
  · next plain =>
    have notPercent : Char.ofNat byte.toNat ≠ '%' := by
      intro isPercent
      rw [isPercent] at plain
      revert plain
      decide
    rw [List.cons_append, List.nil_append, decodeBytes]
    · rw [toNat_ofNat_byte, UInt8.ofNat_toNat]
    · intro high low others isPercent
      exact absurd isPercent notPercent
  · have high := hexValue_upperHexDigit (byte.toNat / 16) (by omega)
    have low := hexValue_upperHexDigit (byte.toNat % 16) (by omega)
    have whole : 16 * (byte.toNat / 16) + byte.toNat % 16 = byte.toNat := by omega
    simp only [List.cons_append, List.nil_append, decodeBytes, high, low]
    cases decodeBytes rest with
    | none => rfl
    | some bytes => simp [whole]

theorem decodeBytes_flatMap (bytes : List UInt8) :
    decodeBytes (bytes.flatMap encodeByte) = some bytes := by
  induction bytes with
  | nil => rfl
  | cons byte bytes inductionHypothesis =>
      rw [List.flatMap_cons, decodeBytes_encodeByte, inductionHypothesis]
      rfl

theorem decode_encode (text : String) : decode (encode text) = some text := by
  simp [decode, encode, decodeBytes_flatMap]

theorem encode_chars (text : String) :
    ∀ char ∈ (encode text).toList, unreserved char = true ∨ char = '%' := by
  have hex : ∀ value < 16, unreserved (upperHexDigit value) = true := by decide
  intro char membership
  simp only [encode, String.toList_ofList, List.mem_flatMap] at membership
  obtain ⟨byte, _, inByte⟩ := membership
  have bound : byte.toNat < 256 := byte.toNat_lt
  unfold encodeByte at inByte
  split at inByte
  · next plain =>
    rw [List.mem_singleton] at inByte
    exact .inl (inByte ▸ plain)
  · simp only [List.mem_cons, List.not_mem_nil, or_false] at inByte
    rcases inByte with rfl | rfl | rfl
    · exact .inr rfl
    · exact .inl (hex _ (by omega))
    · exact .inl (hex _ (by omega))

end Percent

/-- ASCII text is encoded character by character. -/
theorem utf8_ofList {chars : List Char} (ascii : ∀ char ∈ chars, char.toNat < 128) :
    utf8 (String.ofList chars) = chars.map fun char => char.toNat.toUInt8 := by
  induction chars with
  | nil => rfl
  | cons char rest inductionHypothesis =>
      have small : char.utf8Size = 1 := by
        rw [Char.utf8Size_eq_one_iff, UInt32.le_iff_toNat_le]
        exact Nat.le_of_lt_succ (ascii char List.mem_cons_self)
      have later := inductionHypothesis fun other listed =>
        ascii other (List.mem_cons_of_mem char listed)
      unfold utf8 at later ⊢
      rw [String.toUTF8_eq_toByteArray, String.toByteArray_ofList] at later ⊢
      rw [List.utf8Encode_cons, List.utf8Encode_singleton,
        String.utf8EncodeChar_eq_singleton small]
      simp only [ByteArray.data_append, List.data_toByteArray, Array.toList_append, later]
      rfl

/-! ## Base64 -/

namespace Base64

def alphabet : List Char :=
  "ABCDEFGHIJKLMNOPQRSTUVWXYZabcdefghijklmnopqrstuvwxyz0123456789-_".toList

def letter (sextet : Nat) : Char := alphabet.getD sextet 'A'

def sextetOf (char : Char) : Option Nat := alphabet.findIdx? (· = char)

def sextets : List UInt8 → List Nat
  | first :: second :: third :: rest =>
      first.toNat / 4 :: (first.toNat % 4 * 16 + second.toNat / 16) ::
        (second.toNat % 16 * 4 + third.toNat / 64) :: third.toNat % 64 :: sextets rest
  | [first, second] =>
      [first.toNat / 4, first.toNat % 4 * 16 + second.toNat / 16, second.toNat % 16 * 4]
  | [first] => [first.toNat / 4, first.toNat % 4 * 16]
  | [] => []

/-- Left-over bits have to be zero. -/
def ofSextets : List Nat → Option (List UInt8)
  | first :: second :: third :: fourth :: rest =>
      (ofSextets rest).map fun bytes =>
        UInt8.ofNat (first * 4 + second / 16) :: UInt8.ofNat (second % 16 * 16 + third / 4) ::
          UInt8.ofNat (third % 4 * 64 + fourth) :: bytes
  | [first, second, third] =>
      if third % 4 = 0 then
        some [UInt8.ofNat (first * 4 + second / 16), UInt8.ofNat (second % 16 * 16 + third / 4)]
      else none
  | [first, second] =>
      if second % 16 = 0 then some [UInt8.ofNat (first * 4 + second / 16)] else none
  | [_] => none
  | [] => some []

def encode (bytes : List UInt8) : String := String.ofList ((sextets bytes).map letter)

def decode (text : String) : Option (List UInt8) := (text.toList.mapM sextetOf).bind ofSextets

theorem sextets_lt (bytes : List UInt8) : ∀ sextet ∈ sextets bytes, sextet < 64 := by
  fun_induction sextets bytes with
  | case1 first second third rest inductionHypothesis =>
      have := first.toNat_lt
      have := second.toNat_lt
      have := third.toNat_lt
      intro sextet membership
      simp only [List.mem_cons] at membership
      rcases membership with rfl | rfl | rfl | rfl | later
      · omega
      · omega
      · omega
      · omega
      · exact inductionHypothesis sextet later
  | case2 first second =>
      have := first.toNat_lt
      have := second.toNat_lt
      intro sextet membership
      simp only [List.mem_cons, List.not_mem_nil, or_false] at membership
      rcases membership with rfl | rfl | rfl <;> omega
  | case3 first =>
      have := first.toNat_lt
      intro sextet membership
      simp only [List.mem_cons, List.not_mem_nil, or_false] at membership
      rcases membership with rfl | rfl <;> omega
  | case4 => simp

theorem ofNat_eq {number : Nat} {byte : UInt8} (same : number = byte.toNat) :
    UInt8.ofNat number = byte := by
  rw [same, UInt8.ofNat_toNat]

theorem ofSextets_sextets (bytes : List UInt8) : ofSextets (sextets bytes) = some bytes := by
  fun_induction sextets bytes with
  | case1 first second third rest inductionHypothesis =>
      have := first.toNat_lt
      have := second.toNat_lt
      have := third.toNat_lt
      rw [ofSextets, inductionHypothesis, Option.map_some, ofNat_eq, ofNat_eq, ofNat_eq]
      all_goals omega
  | case2 first second =>
      have := first.toNat_lt
      have := second.toNat_lt
      rw [ofSextets, if_pos (by omega), ofNat_eq, ofNat_eq]
      all_goals omega
  | case3 first =>
      have := first.toNat_lt
      rw [ofSextets, if_pos (by omega), ofNat_eq]
      omega
  | case4 => rfl

theorem sextetOf_letter : ∀ sextet < 64, sextetOf (letter sextet) = some sextet := by
  decide +kernel

theorem decode_encode (bytes : List UInt8) : decode (encode bytes) = some bytes := by
  have back : ((sextets bytes).map letter).mapM sextetOf = some (sextets bytes) := by
    have small := sextets_lt bytes
    generalize sextets bytes = listed at small ⊢
    induction listed with
    | nil => rfl
    | cons sextet rest inductionHypothesis =>
        have others := inductionHypothesis fun other membership =>
          small other (List.mem_cons_of_mem sextet membership)
        simp [sextetOf_letter sextet (small sextet List.mem_cons_self), others]
  simp [decode, encode, back, ofSextets_sextets]

theorem dot_not_mem_encode (bytes : List UInt8) : '.' ∉ (encode bytes).toList := by
  have letters : ∀ sextet < 64, letter sextet ≠ '.' := by decide +kernel
  intro membership
  simp only [encode, String.toList_ofList, List.mem_map] at membership
  obtain ⟨sextet, inBytes, isDot⟩ := membership
  exact letters sextet (sextets_lt bytes sextet inBytes) isDot

theorem encode_chars (bytes : List UInt8) : ∀ char ∈ (encode bytes).toList, char ∈ alphabet := by
  have letters : ∀ sextet < 64, letter sextet ∈ alphabet := by decide +kernel
  intro char membership
  simp only [encode, String.toList_ofList, List.mem_map] at membership
  obtain ⟨sextet, inBytes, rfl⟩ := membership
  exact letters sextet (sextets_lt bytes sextet inBytes)

end Base64

end FederatedCatalog.Foundation
