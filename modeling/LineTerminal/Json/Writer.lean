/-
The compact text of a JSON value.

No blanks are written. In texts the quote, the backslash and the control characters below the space are escaped, five
controls by a letter and the others by four digits of base sixteen, and every other character stands for itself. A
floating point number is written with the fewest digits, with an exponent below 10^-5 and from 10^16 on.
-/
import LineTerminal.Decimal.Shortest
import LineTerminal.Json.Value

namespace LineTerminal.Json

/-- floating point numbers have an exponent below 10^-5 and from 10^16 on -/
def numberLayout : Decimal.Layout := ⟨-5, 15⟩

/-- a digit of base sixteen, small letters -/
def hexDigit (n : Nat) : Char := Nat.digitChar (n % 16)

/-- one character inside a text -/
def escapeChar (c : Char) : List Char :=
  if c = '"' then ['\\', '"']
  else if c = '\\' then ['\\', '\\']
  else if c = '\x08' then ['\\', 'b']
  else if c = '\t' then ['\\', 't']
  else if c = '\n' then ['\\', 'n']
  else if c = '\x0c' then ['\\', 'f']
  else if c = '\r' then ['\\', 'r']
  else if c.toNat < 0x20 then ['\\', 'u', '0', '0', hexDigit (c.toNat / 16), hexDigit c.toNat]
  else [c]

def writeText (s : String) : List Char := '"' :: s.toList.flatMap escapeChar ++ ['"']

def writeNumber : Number → List Char
  | .natural n => Nat.toDigits 10 n.toNat
  | .negative n => '-' :: Nat.toDigits 10 (n.val + 1)
  | .double d => if d.isFinite then (numberLayout.render d).toList else ['n', 'u', 'l', 'l']

mutual

def write : Json → List Char
  | .null => ['n', 'u', 'l', 'l']
  | .bool true => ['t', 'r', 'u', 'e']
  | .bool false => ['f', 'a', 'l', 's', 'e']
  | .number n => writeNumber n
  | .text s => writeText s
  | .array [] => ['[', ']']
  | .array (v :: rest) => '[' :: write v ++ writeItems rest
  | .object [] => ['\x7b', '\x7d']
  | .object ((k, v) :: rest) => '\x7b' :: writeText k ++ ':' :: write v ++ writeMembers rest

/-- the further items of an array and its end -/
def writeItems : List Json → List Char
  | [] => [']']
  | v :: rest => ',' :: write v ++ writeItems rest

/-- the further members of an object and its end -/
def writeMembers : List (String × Json) → List Char
  | [] => ['\x7d']
  | (k, v) :: rest => ',' :: writeText k ++ ':' :: write v ++ writeMembers rest

end

def render (v : Json) : String := String.ofList (write v)

end LineTerminal.Json
