/-
The tokens of a JSON text: words, numbers and texts, and what can be wrong with a text or with the data it holds.

Every function takes what is left of the text and answers what it read and what is left after it. A number is first
split into its parts (`NumberText`) and then given its value; the parts alone decide whether it is well formed.
-/
import LineTerminal.Json.Writer
import LineTerminal.Schema

namespace LineTerminal.Json

/-! ## Faults -/

/-- JSON texts call a missing value null and write floating point numbers as they do elsewhere -/
def wording : Schema.Wording := ⟨"null", numberLayout⟩

inductive Fault where
  | endInList | endInObject | endInText | endInValue
  | expectedColon | expectedListCommaOrEnd | expectedObjectCommaOrEnd | expectedWord | expectedValue
  | invalidEscape | invalidNumber | numberOutOfRange | controlCharacter
  | keyMustBeText | loneSurrogate | endOfHexEscape | trailingComma | trailingCharacters | tooDeep
  /-- the text is well formed, its data does not fit -/
  | mismatch (m : Schema.Mismatch)
  /-- a text inside is not in the form it must have -/
  | other (message : String)

def Fault.message : Fault → String
  | endInList => "EOF while parsing a list"
  | endInObject => "EOF while parsing an object"
  | endInText => "EOF while parsing a string"
  | endInValue => "EOF while parsing a value"
  | expectedColon => "expected `:`"
  | expectedListCommaOrEnd => "expected `,` or `]`"
  | expectedObjectCommaOrEnd => "expected `,` or `\x7d`"
  | expectedWord => "expected ident"
  | expectedValue => "expected value"
  | invalidEscape => "invalid escape"
  | invalidNumber => "invalid number"
  | numberOutOfRange => "number out of range"
  | controlCharacter => "control character (\\u0000-\\u001F) found while parsing a string"
  | keyMustBeText => "key must be a string"
  | loneSurrogate => "lone leading surrogate in hex escape"
  | endOfHexEscape => "unexpected end of hex escape"
  | trailingComma => "trailing comma"
  | trailingCharacters => "trailing characters"
  | tooDeep => "recursion limit exceeded"
  | mismatch m => m.message wording
  | other message => message

/-! ## Words and numbers -/

/-- the result of reading: a value and the rest of the text -/
abbrev Scan (α : Type) := Except Fault (α × List Char)

/-- characters without meaning between tokens -/
def isBlank (c : Char) : Bool := c == ' ' || c == '\n' || c == '\t' || c == '\r'

/-- the text from the next token on -/
def skipBlanks (cs : List Char) : List Char := cs.dropWhile isBlank

/-- the rest of a word whose first letter has been read -/
def scanWord : List Char → List Char → Except Fault (List Char)
  | [], cs => .ok cs
  | _ :: _, [] => .error .endInValue
  | w :: ws, c :: cs => if c = w then scanWord ws cs else .error .expectedWord

/-- a number as it is written, without its sign -/
structure NumberText where
  whole : List Char
  /-- the digits after the point; none without a point -/
  fraction : List Char
  /-- is the exponent negative, and its digits -/
  exponent : Option (Bool × List Char)
  deriving Repr

/-- the digits at the beginning, and what follows them -/
def splitDigits (cs : List Char) : List Char × List Char := (cs.takeWhile Char.isDigit, cs.dropWhile Char.isDigit)

/-- the whole part: a zero alone, or digits that do not begin with zero -/
def scanWhole (ended : Fault) : List Char → Scan (List Char)
  | [] => .error ended
  | '0' :: rest =>
    match rest with
    | c :: _ => if c.isDigit then .error .invalidNumber else .ok (['0'], rest)
    | [] => .ok (['0'], [])
  | c :: rest => if c.isDigit then .ok (splitDigits (c :: rest)) else .error .invalidNumber

def scanDigits (ended : Fault) : List Char → Scan (List Char)
  | [] => .error ended
  | c :: rest => if c.isDigit then .ok (splitDigits (c :: rest)) else .error .invalidNumber

/-- the part after the point, if there is a point -/
def scanFraction (ended : Fault) : List Char → Scan (List Char)
  | '.' :: rest => scanDigits ended rest
  | cs => .ok ([], cs)

/-- the exponent, if there is one -/
def scanExponent (ended : Fault) : List Char → Scan (Option (Bool × List Char))
  | [] => .ok (none, [])
  | c :: rest =>
    if c = 'e' ∨ c = 'E' then
      let (negative, rest) := match rest with
        | '-' :: r => (true, r)
        | '+' :: r => (false, r)
        | r => (false, r)
      (scanDigits ended rest).map (fun (ds, r) => (some (negative, ds), r))
    else .ok (none, c :: rest)

/-- a number without its sign; `ended` is the fault when the text ends inside it -/
def scanNumber (ended : Fault) (cs : List Char) : Except Fault (NumberText × List Char) := do
  let (whole, cs) ← scanWhole ended cs
  let (fraction, cs) ← scanFraction ended cs
  let (exponent, cs) ← scanExponent ended cs
  return (⟨whole, fraction, exponent⟩, cs)

def digitsValue (ds : List Char) : Nat := ds.foldl (fun n c => 10 * n + (c.toNat - 48)) 0

/-- take digits into a 64-bit significand as long as it does not overflow: the significand and the digits left -/
def significand (n : Nat) : List Char → Nat × List Char
  | [] => (n, [])
  | c :: rest =>
    let next := 10 * n + (c.toNat - 48)
    if next < UInt64.size then significand next rest else (n, c :: rest)

/-- the whole number with this sign and size -/
def wholeNumber (negative : Bool) (n : Nat) : Number :=
  if !negative then .natural n.toUInt64
  else if n = 0 then .double (Double.negate ⟨0⟩)
  else if h : n - 1 < 0x8000000000000000 then .negative ⟨n - 1, h⟩
  else .double (Double.ofFloat n.toUInt64.toFloat).negate

def NumberText.value (t : NumberText) (negative : Bool) : Except Fault Number :=
  let (n, excess) := significand 0 t.whole
  if excess.isEmpty && t.fraction.isEmpty && t.exponent.isNone then .ok (wholeNumber negative n)
  else
    let (n, left) := significand n t.fraction
    let power : Int := excess.length - (t.fraction.length - left.length : Nat)
    let exponent : Int := match t.exponent with
      | none => 0
      | some (true, ds) => -(digitsValue ds : Int)
      | some (false, ds) => digitsValue ds
    match Double.ofSteps n.toUInt64 (power + exponent) with
    | none => .error .numberOutOfRange
    | some d => .ok (.double (if negative then d.negate else d))

/-- a number whose sign has been read -/
def readNumber (negative : Bool) (cs : List Char) : Except Fault (Number × List Char) := do
  let (t, cs) ← scanNumber .endInValue cs
  let n ← t.value negative
  return (n, cs)

/-! ## Texts -/

def hexValue (c : Char) : Option Nat :=
  if '0' ≤ c ∧ c ≤ '9' then some (c.toNat - 48)
  else if 'a' ≤ c ∧ c ≤ 'f' then some (c.toNat - 87)
  else if 'A' ≤ c ∧ c ≤ 'F' then some (c.toNat - 55)
  else none

/-- four digits of base sixteen; the text ends too early when fewer than four bytes are left -/
def scanHex (cs : List Char) : Scan Nat :=
  if (String.ofList (cs.take 4)).utf8ByteSize < 4 then .error .endInText
  else match cs with
    | a :: b :: c :: d :: rest =>
      match hexValue a, hexValue b, hexValue c, hexValue d with
      | some a, some b, some c, some d => .ok (((a * 16 + b) * 16 + c) * 16 + d, rest)
      | _, _, _, _ => .error .invalidEscape
    | _ => .error .invalidEscape

/-- the second half of a surrogate pair, as an escape of its own -/
def scanSecondHalf : List Char → Scan Nat
  | [] => .error .endInText
  | '\\' :: [] => .error .endInText
  | '\\' :: 'u' :: rest => scanHex rest
  | _ => .error .endOfHexEscape

/-- a character given by its number; numbers above 0xffff come as two halves -/
def readHexEscape (cs : List Char) : Except Fault (Char × List Char) := do
  let (n, cs) ← scanHex cs
  if 0xdc00 ≤ n ∧ n ≤ 0xdfff then .error .loneSurrogate
  else if n < 0xd800 ∨ 0xdfff < n then return (Char.ofNat n, cs)
  else
    let (m, cs) ← scanSecondHalf cs
    if m < 0xdc00 ∨ 0xdfff < m then .error .loneSurrogate
    else return (Char.ofNat (0x10000 + (n - 0xd800) * 0x400 + (m - 0xdc00)), cs)

/-- the escapes of one letter -/
def letterEscape (c : Char) : Option Char :=
  match c with
  | '"' => some '"'
  | '\\' => some '\\'
  | '/' => some '/'
  | 'b' => some '\x08'
  | 'f' => some '\x0c'
  | 'n' => some '\n'
  | 'r' => some '\r'
  | 't' => some '\t'
  | _ => none

/-- what follows a backslash -/
def readEscape : List Char → Scan Char
  | [] => .error .endInText
  | 'u' :: rest => readHexEscape rest
  | c :: rest =>
    match letterEscape c with
    | some d => .ok (d, rest)
    | none => .error .invalidEscape

/-- what follows a backslash in a text that is not kept: the numbers of characters are not looked at -/
def skipEscape : List Char → Except Fault (List Char)
  | [] => .error .endInText
  | 'u' :: rest => (scanHex rest).map (·.2)
  | c :: rest => if (letterEscape c).isSome then .ok rest else .error .invalidEscape

/-- the rest of a text after its opening quote; `acc` holds what was read, the last character first -/
def readTextFrom (acc : List Char) : Nat → List Char → Scan String
  | 0, _ => .error .endInText
  | _ + 1, [] => .error .endInText
  | fuel + 1, c :: rest =>
    if c = '"' then .ok (String.ofList acc.reverse, rest)
    else if c = '\\' then
      match readEscape rest with
      | .error e => .error e
      | .ok (d, rest) => readTextFrom (d :: acc) fuel rest
    else if c.toNat < 0x20 then .error .controlCharacter
    else readTextFrom (c :: acc) fuel rest

/-- the rest of a text after its opening quote -/
def readText (cs : List Char) : Scan String := readTextFrom [] (cs.length + 1) cs

/-- the rest of a text that is not kept -/
def skipTextFrom : Nat → List Char → Except Fault (List Char)
  | 0, _ => .error .endInText
  | _ + 1, [] => .error .endInText
  | fuel + 1, c :: rest =>
    if c = '"' then .ok rest
    else if c = '\\' then
      match skipEscape rest with
      | .error e => .error e
      | .ok rest => skipTextFrom fuel rest
    else if c.toNat < 0x20 then .error .controlCharacter
    else skipTextFrom fuel rest

def skipText (cs : List Char) : Except Fault (List Char) := skipTextFrom (cs.length + 1) cs

end LineTerminal.Json
