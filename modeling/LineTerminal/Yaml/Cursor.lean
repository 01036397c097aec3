/-
A place in a YAML text.

The cursor knows what is left of the text, how many characters it has passed, and its line and column. A line break is a
line feed, a carriage return, both together, or one of the three breaks beyond ASCII; only the last two of these keep
their own character when a break becomes part of a value.
-/
namespace LineTerminal.Yaml

/-- the characters a text may hold -/
def isAllowed (c : Char) : Bool :=
  let n := c.toNat
  n == 9 || n == 0xa || n == 0xd || (0x20 ≤ n && n ≤ 0x7e) || n == 0x85 || (0xa0 ≤ n && n ≤ 0xfffd) || 0x10000 ≤ n

/-- a space or a tab -/
def isBlank (c : Char) : Bool := c == ' ' || c == '\t'

/-- the characters that end a line -/
def isBreak (c : Char) : Bool :=
  c == '\n' || c == '\r' || c == '\u0085' || c == '\u2028' || c == '\u2029'

/-- the characters of names -/
def isWord (c : Char) : Bool := c.isAlphanum || c == '_' || c == '-'

def isByteOrderMark (c : Char) : Bool := c == '\ufeff'

/-- is there a blank, a break or nothing more -/
def endsWord : Option Char → Bool
  | none => true
  | some c => isBlank c || isBreak c

/-- is there a break or nothing more -/
def endsLine : Option Char → Bool
  | none => true
  | some c => isBreak c

/-- a place in a text -/
structure Cursor where
  rest : List Char
  /-- how many characters lie before the place -/
  index : Nat
  line : Nat
  column : Nat
  deriving Repr

namespace Cursor

def start (cs : List Char) : Cursor := ⟨cs, 0, 0, 0⟩

def next? (c : Cursor) : Option Char := c.rest.head?

/-- the character `n` places further on -/
def ahead (c : Cursor) (n : Nat) : Option Char := c.rest[n]?

def sees (c : Cursor) (x : Char) : Bool := c.next? == some x

/-- pass over one character that is no break -/
def skip (c : Cursor) : Cursor :=
  match c.rest with
  | [] => c
  | _ :: rest => ⟨rest, c.index + 1, c.line, c.column + 1⟩

/-- pass over some characters that are no breaks -/
def skipBy (c : Cursor) (n : Nat) : Cursor :=
  let passed := (c.rest.take n).length
  ⟨c.rest.drop n, c.index + passed, c.line, c.column + passed⟩

/-- pass over the characters with a property, none of which is a break -/
def skipWhile (c : Cursor) (p : Char → Bool) : Cursor := c.skipBy (c.rest.takeWhile p).length

/-- pass over one line break: what it is in a value, and the place after it -/
def readBreak (c : Cursor) : List Char × Cursor :=
  match c.rest with
  | '\r' :: '\n' :: rest => (['\n'], ⟨rest, c.index + 2, c.line + 1, 0⟩)
  | x :: rest =>
    if x == '\u2028' || x == '\u2029' then ([x], ⟨rest, c.index + 1, c.line + 1, 0⟩)
    else if isBreak x then (['\n'], ⟨rest, c.index + 1, c.line + 1, 0⟩)
    else ([], c)
  | [] => ([], c)

def skipBreak (c : Cursor) : Cursor := c.readBreak.2

def skipComment (c : Cursor) : Cursor := if c.sees '#' then c.skipWhile (fun x => !isBreak x) else c

/-- does a line begin here with the three characters that begin or end a document -/
def atMarker (c : Cursor) (x : Char) : Bool :=
  c.column == 0 && c.rest.take 3 == [x, x, x] && endsWord (c.ahead 3)

/-- does a document begin or end here -/
def atDocumentMarker (c : Cursor) : Bool := c.atMarker '-' || c.atMarker '.'

/-- pass over blanks and a comment to the end of the line, which must come then, and over its break -/
def finishLine (c : Cursor) : Option Cursor :=
  let c := (c.skipWhile isBlank).skipComment
  if endsLine c.next? then some c.skipBreak else none

end Cursor

end LineTerminal.Yaml
