/-
Records read from JSON values.

A record is an object, or an array of its fields in order that may be cut short. A named alternative is its name, or an
object with that name as its only member and null as its value.
-/
import LineTerminal.Json.Token
import LineTerminal.Schema

namespace LineTerminal.Json

open Schema (Seen Mismatch Field Source)

/-- how a mismatch names a number -/
def Number.seen : Number → Seen
  | .natural n => .integer n.toNat
  | .negative n => .integer (-(n.val + 1 : Int))
  | .double d => .floating d

def seen : Json → Seen
  | .null => .nothing
  | .bool b => .bool b
  | .number n => n.seen
  | .text s => .text s
  | .array _ => .sequence
  | .object _ => .map

namespace Decoding

/-- a value of another type was expected -/
def unexpected {α : Type} (expected : String) (v : Json) : Except Mismatch α :=
  .error (.invalidType v.seen expected)

/-- a whole number below `bound` -/
def whole (expected : String) (bound : Nat) : Json → Except Mismatch Nat
  | .number (.natural n) =>
    if n.toNat < bound then .ok n.toNat else .error (.invalidValue (.integer n.toNat) expected)
  | .number (.negative n) => .error (.invalidValue (Number.negative n).seen expected)
  | v => unexpected expected v

def choice {α : Type} (known : List (String × α)) : Json → Except Mismatch α
  | .text name => Schema.choose known name
  | .object [(name, value)] => do
    let a ← Schema.choose known name
    if value.isNull then return a else unexpected "unit" value
  | .object _ => .error (.invalidValue .map "map with a single key")
  | v => unexpected "string or map" v

/-- the members of an object, one after another; `seen` holds the names so far -/
def readAll {α : Type} (fields : List (Field Json Mismatch α)) (seen : List String) (start : α) :
    List (String × Json) → Except Mismatch α
  | [] => .ok start
  | (name, value) :: rest => do
    let field ← Schema.fieldNamed fields name
    if seen.contains name then .error (.duplicateField name)
    else
      let next ← field.read value start
      readAll fields (name :: seen) next rest

/-- the items of an array, one for each field in order -/
def readInOrder {α : Type} (start : α) :
    List (Field Json Mismatch α) → List Json → Except Mismatch α
  | field :: fields, value :: values => do
    let next ← field.read value start
    readInOrder next fields values
  | _, _ => .ok start

def record {α : Type} (name : String) (fields : List (Field Json Mismatch α)) (start : α) :
    Json → Except Mismatch α
  | .object members => readAll fields [] start members
  | .array values => do
    let a ← readInOrder start fields values
    if values.length ≤ fields.length then return a
    else .error (.invalidLength values.length "fewer elements in array")
  | v => unexpected ("struct " ++ name) v

end Decoding

/-- JSON values as the source of records -/
def source : Source Json Mismatch where
  word v := (Decoding.whole "u32" UInt32.size v).map (·.toUInt32)
  size v := (Decoding.whole "usize" UInt64.size v).map (·.toUInt64)
  flag
    | .bool b => .ok b
    | v => Decoding.unexpected "a boolean" v
  text
    | .text s => .ok s
    | v => Decoding.unexpected "a string" v
  choice := Decoding.choice
  record := Decoding.record

end LineTerminal.Json
