/-
What a scalar stands for.

A plain scalar without a tag stands for nothing, a truth value, a whole number, a floating point number or, when it is
none of these, its text. Whole numbers may have a base mark; digits behind a leading zero are a text. Standard tags ask
for one of the kinds.
-/
import LineTerminal.Schema
import LineTerminal.Yaml.Token

namespace LineTerminal.Yaml.Scalar

open Schema (Seen Mismatch)

/-- the words for nothing -/
def isNull (s : String) : Bool := ["null", "Null", "NULL", "~"].contains s

/-- the words for the truth values -/
def flag? (s : String) : Option Bool :=
  if ["true", "True", "TRUE"].contains s then some true
  else if ["false", "False", "FALSE"].contains s then some false
  else none

/-- the value of a digit in any base up to sixteen -/
def digitValue (c : Char) : Option Nat :=
  if c.isDigit then some (c.toNat - 48) else Token.hexValue c

/-- the number that digits in a base make; one at least is needed -/
def inBase (base : Nat) (ds : List Char) : Option Nat :=
  if ds.isEmpty then none
  else ds.foldlM (fun n c => do
    let d ← digitValue c
    if d < base then some (base * n + d) else none) 0

/-- the size of a number without its sign, which may have a base mark -/
def magnitude (cs : List Char) : Option Nat :=
  match cs with
  | '0' :: 'x' :: rest => inBase 16 rest
  | '0' :: 'o' :: rest => inBase 8 rest
  | '0' :: 'b' :: rest => inBase 2 rest
  | cs => inBase 10 cs

/-- are these digits that begin with a zero, of which there is more than one -/
def hasLeadingZero : List Char → Bool
  | '0' :: rest => !rest.isEmpty && rest.all Char.isDigit
  | _ => false

/-- the number without its sign, if it has one -/
def unsigned : List Char → List Char
  | '+' :: rest => rest
  | '-' :: rest => rest
  | cs => cs

/-- the whole number that a text stands for: its sign and its size -/
def whole? (s : String) : Option (Bool × Nat) :=
  let cs := s.toList
  if hasLeadingZero (unsigned cs) then none
  else match cs with
    | '-' :: rest => (magnitude rest).map (fun n => (true, n))
    | _ => (magnitude (unsigned cs)).map (fun n => (false, n))

/-- the whole number without a minus sign that a text stands for, below 2^64 -/
def natural? (s : String) : Option Nat :=
  match whole? s with
  | some (false, n) => if n < UInt64.size then some n else none
  | _ => none

/-- the digits of a floating point number before its exponent, and how many of them stand behind the point -/
def mantissa (cs : List Char) : Option (List Char × Nat × List Char) :=
  let before := cs.takeWhile Char.isDigit
  let rest := cs.dropWhile Char.isDigit
  let (behind, rest) := match rest with
    | '.' :: rest => (rest.takeWhile Char.isDigit, rest.dropWhile Char.isDigit)
    | rest => ([], rest)
  if before.isEmpty && behind.isEmpty then none else some (before ++ behind, behind.length, rest)

/-- the exponent at the end of a floating point number -/
def exponent (cs : List Char) : Option Int :=
  match cs with
  | [] => some 0
  | e :: rest =>
    if e != 'e' && e != 'E' then none
    else (inBase 10 (unsigned rest)).map (fun n => if rest.head? == some '-' then -(n : Int) else n)

/-- the floating point number that a text stands for; one that is too large is a text -/
def floating? (s : String) : Option Double :=
  if [".inf", ".Inf", ".INF", "+.inf", "+.Inf", "+.INF"].contains s then some ⟨0x7ff0000000000000⟩
  else if ["-.inf", "-.Inf", "-.INF"].contains s then some ⟨0xfff0000000000000⟩
  else if [".nan", ".NaN", ".NAN"].contains s then some ⟨0x7ff8000000000000⟩
  else do
    let cs := s.toList
    let (ds, places, rest) ← mantissa (unsigned cs)
    let e ← exponent rest
    let whole ← inBase 10 ds
    let d := Double.ofDecimal whole (e - places)
    if !d.isFinite then none
    else return if cs.head? == some '-' then d.negate else d

/-- a whole number as a mismatch names it: it has a type of its own when it does not fit 64 bits -/
def wholeSeen (negative : Bool) (n : Nat) : Option Seen :=
  if negative then
    if n ≤ 0x8000000000000000 then some (.integer (-n))
    else if n ≤ 0x80000000000000000000000000000000 then some (.wideInteger (-n) "i128")
    else none
  else if n < UInt64.size then some (.integer n)
  else if n < 0x100000000000000000000000000000000 then some (.wideInteger n "u128")
  else none

def wholeOf (s : String) : Option Seen := do
  let (negative, n) ← whole? s
  wholeSeen negative n

/-- what a plain scalar stands for -/
def plainSeen (s : String) : Seen :=
  if s.isEmpty || isNull s then .nothing
  else match flag? s with
    | some b => .bool b
    | none =>
      match wholeOf s with
      | some n => n
      | none =>
        if hasLeadingZero (unsigned s.toList) then .text s
        else match floating? s with
          | some d => .floating d
          | none => .text s

/-- the standard tags -/
def boolTag : String := "tag:yaml.org,2002:bool"
def intTag : String := "tag:yaml.org,2002:int"
def floatTag : String := "tag:yaml.org,2002:float"
def nullTag : String := "tag:yaml.org,2002:null"

/-- what a scalar stands for; one whose tag asks for a kind that its text is not of is refused -/
def seen (tag : Option String) (style : Style) (s : String) : Except Mismatch Seen :=
  let asked (expected : String) (found : Option Seen) : Except Mismatch Seen :=
    match found with
    | some v => .ok v
    | none => .error (.invalidValue (.text s) expected)
  match tag with
  | none => .ok (if style = .plain then plainSeen s else .text s)
  | some tag =>
    if tag = boolTag then asked "a boolean" ((flag? s).map .bool)
    else if tag = intTag then asked "an integer" (wholeOf s)
    else if tag = floatTag then asked "a float" ((floating? s).map .floating)
    else if tag = nullTag then asked "null" (if isNull s then some .nothing else none)
    else .ok (if tag.startsWith "!" && style = .plain then plainSeen s else .text s)

/-- may a scalar stand for a value with this tag: when it is plain, or literal with the tag -/
def mayStandFor (expected : String) (tag : Option String) (style : Style) : Bool :=
  style == .plain || (style == .literal && tag == some expected)

end LineTerminal.Yaml.Scalar
