/-
Data that records are read from, and the ways in which it does not fit.

A `Source` reads the values of one data format: single values of the few types that records are made of, a choice between
named alternatives, and records. A record is described by its fields, each of which reads a value into the record, so
that fields that are not given keep what they had.

A mismatch says what was seen and what was expected. The formats that carry data word two things differently: a missing
value and a floating point number; `Wording` holds the two.
-/
import LineTerminal.Decimal.Shortest
import LineTerminal.Text.Quoted

namespace LineTerminal.Schema

/-! ## Mismatches -/

/-- data as a mismatch names it -/
inductive Seen where
  | nothing
  | bool (b : Bool)
  | integer (n : Int)
  /-- a whole number beyond 64 bits, and the type it still fits -/
  | wideInteger (n : Int) (type : String)
  | floating (d : Double)
  | text (s : String)
  | sequence
  | map
  deriving Repr

/-- a way in which data does not fit -/
inductive Mismatch where
  | invalidType (seen : Seen) (expected : String)
  | invalidValue (seen : Seen) (expected : String)
  | invalidLength (length : Nat) (expected : String)
  | unknownVariant (name : String) (known : List String)
  | unknownField (name : String) (known : List String)
  | missingField (name : String)
  | duplicateField (name : String)
  deriving Repr

/-- how a format words a missing value and a floating point number -/
structure Wording where
  nothing : String
  floating : Decimal.Layout

/-- a name between grave accents -/
def ticked (s : String) : String := "`" ++ s ++ "`"

def Seen.render (w : Wording) : Seen → String
  | nothing => w.nothing
  | bool b => "boolean " ++ ticked (if b then "true" else "false")
  | integer n => "integer " ++ ticked (toString n)
  | wideInteger n type => "integer " ++ ticked (toString n) ++ " as " ++ type
  | floating d =>
    "floating point " ++ ticked
      (if d.isNaN then "NaN" else if d.isFinite then w.floating.render d else if d.isNegative then "-inf" else "inf")
  | text s => "string " ++ Text.quoted s
  | sequence => "sequence"
  | map => "map"

/-- a choice between names -/
def choice : List String → String
  | [] => "there are no variants"
  | [a] => ticked a
  | [a, b] => ticked a ++ " or " ++ ticked b
  | names => "one of " ++ ", ".intercalate (names.map ticked)

def Mismatch.message (w : Wording) : Mismatch → String
  | invalidType seen expected => "invalid type: " ++ seen.render w ++ ", expected " ++ expected
  | invalidValue seen expected => "invalid value: " ++ seen.render w ++ ", expected " ++ expected
  | invalidLength n expected => "invalid length " ++ toString n ++ ", expected " ++ expected
  | unknownVariant name known => "unknown variant " ++ ticked name ++ ", expected " ++ choice known
  | unknownField name known => "unknown field " ++ ticked name ++ ", expected " ++ choice known
  | missingField name => "missing field " ++ ticked name
  | duplicateField name => "duplicate field " ++ ticked name

/-! ## Sources -/

/-- a field of a record of type `α`, read from values of type `ν` -/
structure Field (ν ε α : Type) where
  name : String
  read : ν → α → Except ε α

/-- how the values of a data format are read -/
structure Source (ν ε : Type) where
  /-- a whole number of 32 bits -/
  word : ν → Except ε UInt32
  /-- a whole number of 64 bits -/
  size : ν → Except ε UInt64
  flag : ν → Except ε Bool
  text : ν → Except ε String
  /-- a named alternative -/
  choice : {α : Type} → List (String × α) → ν → Except ε α
  /-- a record, from its type's name, its fields and what they are before they are read -/
  record : {α : Type} → String → List (Field ν ε α) → α → ν → Except ε α

/-- the alternative with a name -/
def choose {α : Type} (known : List (String × α)) (name : String) : Except Mismatch α :=
  match known.lookup name with
  | some a => .ok a
  | none => .error (.unknownVariant name (known.map (·.1)))

/-- the alternatives of a type by their names -/
def named {α : Type} (name : α → String) (all : List α) : List (String × α) := all.map (fun a => (name a, a))

def fieldNamed {ν ε α : Type} (fields : List (Field ν ε α)) (name : String) : Except Mismatch (Field ν ε α) :=
  match fields.find? (·.name == name) with
  | some f => .ok f
  | none => .error (.unknownField name (fields.map (·.name)))

end LineTerminal.Schema
