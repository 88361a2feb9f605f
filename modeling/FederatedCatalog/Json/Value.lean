import FederatedCatalog.Foundation.Bytes
import Mathlib.Algebra.Group.Nat.Defs
import Mathlib.Data.List.Nodup

/-!
# JSON values

The part of `serde_json` the program works with: the value tree, the lookups
`get`, `as_str`, `as_array` and `as_u64`, and the text format as an interface.
An object is the list of its members in the order they were written.
-/

namespace FederatedCatalog.Json

open Foundation

/-- A number as `serde_json` classifies it: `u64`, negative `i64`, or a float,
whose value nothing in the program looks at. -/
inductive Number where
  | posInt (value : Nat)
  /-- The integer `-(magnitude + 1)`. -/
  | negInt (magnitude : Nat)
  | float
  deriving DecidableEq, Repr

def Number.IsInteger : Number → Prop
  | .posInt value => value < 2 ^ 64
  | .negInt magnitude => magnitude < 2 ^ 63
  | .float => False

inductive Value where
  | null
  | bool (value : Bool)
  | number (value : Number)
  | string (value : String)
  | array (items : List Value)
  | object (members : List (String × Value))

namespace Value

/-- `Value::get` with a string index. -/
def get : Value → String → Option Value
  | .object members, key => members.lookup key
  | _, _ => none

def asStr : Value → Option String
  | .string value => some value
  | _ => none

def asArray : Value → Option (List Value)
  | .array items => some items
  | _ => none

def asU64 : Value → Option Nat
  | .number (.posInt value) => some value
  | _ => none

@[simp] theorem get_object (members : List (String × Value)) (key : String) :
    (object members).get key = members.lookup key := rfl
@[simp] theorem get_array (items : List Value) (key : String) : (array items).get key = none := rfl
@[simp] theorem get_string (value key : String) : (string value).get key = none := rfl
@[simp] theorem get_null (key : String) : null.get key = none := rfl

@[simp] theorem asStr_string (value : String) : (string value).asStr = some value := rfl
@[simp] theorem asStr_null : null.asStr = none := rfl
@[simp] theorem asArray_array (items : List Value) : (array items).asArray = some items := rfl
@[simp] theorem asU64_posInt (value : Nat) : (number (.posInt value)).asU64 = some value := rfl

theorem asStr_eq_some {value : Value} {text : String} (read : value.asStr = some text) :
    value = string text := by
  cases value <;> simp_all [asStr]

/-- `Option<T>`: `null` reads as `None`. -/
def readOptional {Item : Type} (read : Value → Option Item) : Value → Option (Option Item)
  | .null => some none
  | value => (read value).map some

def readOptionalString : Value → Option (Option String) := readOptional asStr

def ofOptionalString : Option String → Value
  | none => .null
  | some text => .string text

@[simp]
theorem readOptionalString_of (text : Option String) :
    readOptionalString (ofOptionalString text) = some text := by
  cases text <;> rfl

/-- `Vec<T>`: every element has to read as a `T`. -/
def readArray {Item : Type} (read : Value → Option Item) (value : Value) :
    Option (List Item) :=
  value.asArray.bind fun items => items.mapM read

theorem readArray_of {Item : Type} (read : Value → Option Item) (write : Item → Value)
    (items : List Item) (inverse : ∀ item ∈ items, read (write item) = some item) :
    readArray read (.array (items.map write)) = some items := by
  simp only [readArray, asArray_array, Option.bind_some, List.mapM_map]
  induction items with
  | nil => rfl
  | cons item rest inductionHypothesis =>
      have tail := inductionHypothesis fun other membership =>
        inverse other (List.mem_cons_of_mem item membership)
      simp [List.mapM_cons, inverse item List.mem_cons_self, tail]

/-- A value that any reader gives back unchanged: no floats, no repeated keys,
and at most `depth` levels of arrays and objects. -/
def PlainWithin : Nat → Value → Prop
  | _, .null => True
  | _, .bool _ => True
  | _, .number numeral => numeral.IsInteger
  | _, .string _ => True
  | 0, .array _ => False
  | 0, .object _ => False
  | depth + 1, .array items => ∀ item ∈ items, PlainWithin depth item
  | depth + 1, .object members =>
      (members.map Prod.fst).Nodup ∧ ∀ member ∈ members, PlainWithin depth member.2

@[simp] theorem plainWithin_null (depth : Nat) : null.PlainWithin depth := by
  cases depth <;> trivial

@[simp] theorem plainWithin_ofOptionalString (depth : Nat) (text : Option String) :
    (ofOptionalString text).PlainWithin depth := by
  cases text <;> cases depth <;> trivial

@[simp] theorem plainWithin_string (depth : Nat) (value : String) :
    (string value).PlainWithin depth := by
  cases depth <;> trivial

theorem plainWithin_posInt (depth value : Nat) :
    (number (.posInt value)).PlainWithin depth ↔ value < 2 ^ 64 := by
  cases depth <;> exact Iff.rfl

@[simp] theorem plainWithin_array (depth : Nat) (items : List Value) :
    (array items).PlainWithin (depth + 1) ↔ ∀ item ∈ items, item.PlainWithin depth := Iff.rfl

@[simp] theorem plainWithin_object (depth : Nat) (members : List (String × Value)) :
    (object members).PlainWithin (depth + 1) ↔
      (members.map Prod.fst).Nodup ∧ ∀ member ∈ members, member.2.PlainWithin depth := Iff.rfl

end Value

/-- What a derived `Deserialize` has before it of a struct. -/
structure Fields where
  /-- Told apart by their names, and not by their places. -/
  named : Bool
  members : List (String × Value)

/-- A struct is an object that names no field twice, or an array of the first fields in the
order of their declaration. -/
def Value.fields (names : List String) : Value → Option Fields
  | .object members =>
      if ((members.map Prod.fst).filter (· ∈ names)).Nodup then some ⟨true, members⟩ else none
  | .array items => if items.length ≤ names.length then some ⟨false, names.zip items⟩ else none
  | _ => none

namespace Fields

variable {Field : Type} (fields : Fields)

def get (key : String) : Option Value := fields.members.lookup key

def required (key : String) (read : Value → Option Field) : Option Field :=
  (fields.get key).bind read

/-- A field marked `#[serde(default)]`: absent is the default, ill-typed is an error. -/
def defaulted (key : String) (default : Field) (read : Value → Option Field) : Option Field :=
  match fields.get key with
  | none => some default
  | some member => read member

/-- A field of type `Option<T>`, which has to be in its place if it has no name. -/
def optional (key : String) (read : Value → Option Field) : Option (Option Field) :=
  match fields.get key with
  | none => if fields.named then some none else none
  | some member => Value.readOptional read member

end Fields

theorem Value.fields_object {names : List String} {members : List (String × Value)}
    (distinct : (members.map Prod.fst).Nodup) :
    (Value.object members).fields names = some ⟨true, members⟩ :=
  if_pos (distinct.filter _)

theorem Value.eq_of_fields_object {names : List String} {members : List (String × Value)}
    {fields : Fields} (split : (Value.object members).fields names = some fields) :
    fields = ⟨true, members⟩ := by
  simp only [Value.fields] at split
  by_cases distinct : ((members.map Prod.fst).filter (· ∈ names)).Nodup
  · rw [if_pos distinct] at split
    exact (Option.some.inj split).symm
  · rw [if_neg distinct] at split
    cases split

theorem Value.eq_of_fields_array {names : List String} {items : List Value} {fields : Fields}
    (split : (Value.array items).fields names = some fields) :
    fields = ⟨false, names.zip items⟩ := by
  simp only [Value.fields] at split
  by_cases enough : items.length ≤ names.length
  · rw [if_pos enough] at split
    exact (Option.some.inj split).symm
  · rw [if_neg enough] at split
    cases split

/-- The JSON text format: `to_string`, and `from_slice` at two kinds of types.  Reading
back what was written gives the same value, as long as it nests less deeply than the
reader's recursion limit of 128. -/
structure TextFormat where
  print : Value → String
  /-- `from_slice` at `Value`. -/
  fromSlice : List UInt8 → Except String Value
  fromSlice_print : ∀ value : Value, value.PlainWithin 127 →
    fromSlice (utf8 (print value)) = .ok value
  /-- What a derived `Deserialize` is shown: an object's members as they are written, repeated
  ones included. -/
  tree : List UInt8 → Except String Value
  tree_print : ∀ value : Value, value.PlainWithin 127 → tree (utf8 (print value)) = .ok value
  /-- The reader's complaint about JSON of another shape than the type asked for. -/
  mismatch : List UInt8 → String

namespace TextFormat

variable {Record : Type}

def ReadsBack (format : TextFormat) (value : Value) : Prop :=
  format.fromSlice (utf8 (format.print value)) = .ok value

/-- `serde_json::from_slice` at a type with a derived `Deserialize`. -/
def readSlice (format : TextFormat) (fromValue : Value → Option Record) (bytes : List UInt8) :
    Except String Record :=
  match format.tree bytes with
  | .error message => .error message
  | .ok value =>
      match fromValue value with
      | some record => .ok record
      | none => .error (format.mismatch bytes)

@[simp]
theorem readSlice_print (format : TextFormat) (fromValue : Value → Option Record)
    {value : Value} (plain : value.PlainWithin 127) {record : Record}
    (read : fromValue value = some record) :
    format.readSlice fromValue (utf8 (format.print value)) = .ok record := by
  simp [readSlice, format.tree_print value plain, read]

end TextFormat

end FederatedCatalog.Json
