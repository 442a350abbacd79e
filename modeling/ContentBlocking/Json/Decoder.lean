import ContentBlocking.Json.Problem
import ContentBlocking.Json.Reader
import ContentBlocking.SortedMap

/-!
# Decoding JSON values

A decoder turns a value into what it stands for, or tells the first problem in the order of the
text. Records are decoded from objects, in which unknown members are skipped and known ones must not
be repeated, or from lists of their fields in order.
-/

namespace ContentBlocking.Json

abbrev Decoded (α : Type) := Except Problem α

abbrev Decoder (α : Type) := Value → Decoded α

def failWith {α : Type} (fault : Fault) : Decoded α := .error (.fault fault)

def orFault {α : Type} (outcome : Except Fault α) : Decoded α := outcome.mapError .fault

/-- The floating-point number nearest to a written one. A decimal of any length is rounded exactly
here. A reader that scales in floating-point arithmetic, as JSON readers do unless they are asked to
keep round trips, may be one unit in the last place off for a long decimal. -/
def WrittenNumber.float? (number : WrittenNumber) : Option Binary64 :=
  Binary64.ofDecimal? number.negative number.digits number.exponent

def largestInteger : Nat := 0xffffffffffffffff

def smallestIntegerMagnitude : Nat := 0x8000000000000000

/-- The integer that is written, if it is written as one and fits into 64 bits. A negative zero is
no integer. -/
def WrittenNumber.integer? (number : WrittenNumber) : Option Int :=
  if !number.integral then none
  else if number.negative then
    if 0 < number.digits && number.digits ≤ smallestIntegerMagnitude then some (-number.digits)
    else none
  else if number.digits ≤ largestInteger then some number.digits
  else none

/-- What a number is, for a message. A number out of range is a fault. -/
def WrittenNumber.found (number : WrittenNumber) : Decoded Found :=
  match number.integer? with
  | some value => .ok (.integer value)
  | none =>
      match number.float? with
      | some value => .ok (.float value)
      | none => failWith .malformed

/-- What a value is, as far as its first token tells. -/
def Value.found : Value → Decoded Found
  | .word .null => .ok .null
  | .word .true => .ok (.bool true)
  | .word .false => .ok (.bool false)
  | .number written => written.found
  | .text written => (orFault written.decode).map .text
  | .array _ _ => .ok .sequence
  | .object _ _ => .ok .map
  | .brokenWord _ fault | .brokenNumber fault | .absent fault => failWith fault

/-- Refuses a value that is not of the expected kind. -/
def mismatch {α : Type} (expected : String) (value : Value) : Decoded α := do
  let found ← value.found
  .error (.invalidType found expected)

/-- Refuses a list or an object that is cut. -/
def Ending.check : Ending → Decoded Unit
  | .closed => .ok ()
  | .cut fault => failWith fault

def skip (value : Value) : Decoded Unit :=
  match value.fault? with
  | none => .ok ()
  | some fault => failWith fault

/-! ## Plain values -/

def text : Decoder String
  | .text written => orFault written.decode
  | value => mismatch "a string" value

def float : Decoder Binary64
  | .number number =>
      match number.float? with
      | some value => .ok value
      | none => failWith .malformed
  | value => mismatch "f64" value

def null : Decoder Unit
  | .word .null => .ok ()
  | .brokenWord .null fault => failWith fault
  | value => mismatch "unit" value

/-- Decodes `null` as nothing and any other value by the given decoder. -/
def optional {α : Type} (decode : Decoder α) : Decoder (Option α)
  | .word .null => .ok none
  | .brokenWord .null fault => failWith fault
  | value => (decode value).map some

def list {α : Type} (decode : Decoder α) : Decoder (List α)
  | .array items ending => do
      let decoded ← items.mapM decode
      ending.check
      return decoded
  | value => mismatch "a sequence" value

def readEntries {α : Type} (decode : Decoder α) :
    SortedMap α → List Member → Decoded (SortedMap α)
  | map, [] => .ok map
  | map, (key, value) :: rest => do
      let name ← orFault key.decode
      let decoded ← decode value
      readEntries decode (map.insert name decoded) rest

/-- Decodes an object with arbitrary keys. The last member with a key counts. -/
def map {α : Type} (decode : Decoder α) : Decoder (SortedMap α)
  | .object members ending => do
      let decoded ← readEntries decode ∅ members
      ending.check
      return decoded
  | value => mismatch "a map" value

/-! ## Choices -/

/-- A case of a choice: a name alone, or a name with contents. -/
inductive Variant (α : Type) where
  | bare (value : α)
  | filled (decode : Decoder α)

abbrev Variants (α : Type) := List (String × Variant α)

def Variants.find {α : Type} (variants : Variants α) (name : String) : Decoded (Variant α) :=
  match variants.lookup name with
  | some variant => .ok variant
  | none => .error (.unknownVariant name (variants.map Prod.fst))

def Variant.contents {α : Type} (value : Value) : Variant α → Decoded α
  | .bare result => do
      null value
      return result
  | .filled decode => decode value

/-- Decodes a case from its name, or from an object with its name as the only key and its contents
as the value. -/
def choice {α : Type} (variants : Variants α) : Decoder α
  | .text written => do
      match ← variants.find (← orFault written.decode) with
      | .bare result => return result
      | .filled _ => .error (.invalidType .bareName "newtype variant")
  | .object [] (.cut fault) => failWith fault
  | .object ((key, value) :: rest) ending => do
      let variant ← variants.find (← orFault key.decode)
      let result ← variant.contents value
      if rest.isEmpty then
        ending.check
        return result
      else failWith .malformed
  | .absent fault => failWith fault
  | _ => failWith .malformed

/-- Decodes a case from its name alone. -/
def variantName {α : Type} (variants : List (String × α)) : Decoder α
  | .text written => do
      let name ← orFault written.decode
      match variants.lookup name with
      | some result => return result
      | none => .error (.unknownVariant name (variants.map Prod.fst))
  | value => mismatch "variant identifier" value

def named {α : Type} (variants : List (String × α)) : Decoder α :=
  choice (variants.map fun (name, value) => (name, .bare value))

/-! ## Records -/

/-- A field of a record that is filled step by step. -/
structure RecordField (α : Type) where
  name : String
  required : Bool
  store : Value → α → Decoded α

/-- A field that has to be there. -/
def RecordField.needed {α β : Type} (name : String) (decode : Decoder β)
    (put : α → β → α) : RecordField α :=
  ⟨name, true, fun value record => (decode value).map (put record)⟩

/-- A field that may be absent or `null`. -/
def RecordField.maybe {α β : Type} (name : String) (decode : Decoder β)
    (put : α → Option β → α) : RecordField α :=
  ⟨name, false, fun value record => (optional decode value).map (put record)⟩

/-- Fills a record from members, of which those with the names `seen` have gone before. -/
def readMembers {α : Type} (fields : List (RecordField α)) :
    List String → α → List Member → Decoded (List String × α)
  | seen, record, [] => .ok (seen, record)
  | seen, record, (key, value) :: rest => do
      let name ← orFault key.decode
      match fields.find? (fun field => field.name = name) with
      | none =>
          skip value
          readMembers fields seen record rest
      | some field =>
          if name ∈ seen then .error (.duplicateField name)
          else
            let record ← field.store value record
            readMembers fields (name :: seen) record rest

/-- Fills a record from the items of a list, one for each field, of which the next has the given
index. -/
def readItems {α : Type} (expected : String) (ending : Ending) :
    Nat → List (RecordField α) → α → List Value → Decoded α
  | _, [], record, [] => do
      ending.check
      return record
  | _, [], _, _ :: _ => failWith .malformed
  | index, field :: fields, record, [] => do
      ending.check
      if field.required then .error (.invalidLength index expected)
      else readItems expected ending (index + 1) fields record []
  | index, field :: fields, record, value :: rest => do
      let record ← field.store value record
      readItems expected ending (index + 1) fields record rest

/-- Decodes a record. Its fields are stored into `blank`, in which only the fields that are required
may have values that do not matter. -/
def record {α : Type} (name : String) (fields : List (RecordField α)) (blank : α) : Decoder α
  | .object members ending => do
      let (seen, filled) ← readMembers fields [] blank members
      ending.check
      match fields.find? (fun field => field.required && !seen.contains field.name) with
      | some field => .error (.missingField field.name)
      | none => return filled
  | .array items ending =>
      readItems ("struct " ++ name ++ " with " ++ toString fields.length ++ " elements") ending
        0 fields blank items
  | value => mismatch ("struct " ++ name) value

/-! ## Texts -/

/-- Decodes a text. Nothing may follow its value. -/
def decodeText {α : Type} (decode : Decoder α) (text : List Symbol) : Decoded α := do
  let content := read text
  let decoded ← decode content.value
  if content.trailing then failWith .malformed else return decoded

def decodeString {α : Type} (decode : Decoder α) (text : String) : Decoded α :=
  decodeText decode (Symbol.ofString text)

end ContentBlocking.Json
