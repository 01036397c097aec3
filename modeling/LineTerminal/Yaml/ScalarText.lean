/-
The texts of scalars, as they are written in a YAML text.

A plain or quoted scalar may run over several lines: a single line break becomes a space and of several breaks the first
is dropped. A block scalar keeps its lines (literal) or joins them in the same way (folded), and its header says what
becomes of the breaks at its end.
-/
import LineTerminal.Yaml.Token

namespace LineTerminal.Yaml.ScalarText

/-- what lies between two words of a scalar -/
structure Gap where
  /-- blanks before the first break -/
  blanks : List Char
  /-- has there been a break -/
  broken : Bool
  /-- the first break -/
  first : List Char
  /-- the further breaks -/
  more : List Char

def Gap.none : Gap := ⟨[], false, [], []⟩

/-- the characters that breaks become -/
def folded (first more : List Char) : List Char :=
  if first == ['\n'] then (if more.isEmpty then [' '] else more) else first ++ more

def Gap.chars (g : Gap) : List Char := if g.broken then folded g.first g.more else g.blanks

/-- pass over blanks and breaks; after a break no tab may stand before column `indent` -/
def readGap (indent : Nat) : Nat → Gap → Cursor → Option (Gap × Cursor)
  | 0, g, c => some (g, c)
  | fuel + 1, g, c =>
    match c.next? with
    | .none => some (g, c)
    | some x =>
      if isBlank x then
        if g.broken && c.column < indent && x == '\t' then .none
        else readGap indent fuel (if g.broken then g else { g with blanks := g.blanks ++ [x] }) c.skip
      else if isBreak x then
        let (b, c) := c.readBreak
        if g.broken then readGap indent fuel { g with more := g.more ++ b } c
        else readGap indent fuel { g with blanks := [], broken := true, first := b } c
      else some (g, c)

/-! ## plain scalars -/

/-- the brackets and signs of the flow context -/
def isFlowSign (c : Char) : Bool := c == ',' || c == '[' || c == ']' || c == '\x7b' || c == '\x7d'

/-- how many characters the word of a plain scalar has -/
def wordLength (flow : Bool) : List Char → Option Nat
  | [] => some 0
  | c :: rest =>
    let next := rest.head?
    if endsWord (some c) then some 0
    else if flow && c == ':' && ((next.map (fun d => d == '?' || isFlowSign d)).getD false) then none
    else if (c == ':' && endsWord next) || (flow && isFlowSign c) then some 0
    else (wordLength flow rest).map (· + 1)

/-- the words of a plain scalar; `gap` lies before the next one, `acc` holds the characters so far, the last one
first -/
def plainWords (flow : Bool) (indent : Nat) : Nat → Gap → List Char → Cursor → Option (List Char × Bool × Cursor)
  | 0, gap, acc, c => some (acc, gap.broken, c)
  | fuel + 1, gap, acc, c =>
    if c.atDocumentMarker || c.sees '#' then some (acc, gap.broken, c)
    else do
      let n ← wordLength flow c.rest
      let (acc, gap, c) :=
        if n = 0 then (acc, gap, c) else ((gap.chars ++ c.rest.take n).reverseAux acc, Gap.none, c.skipBy n)
      match c.next? with
      | .none => return (acc, gap.broken, c)
      | some x =>
        if !(isBlank x || isBreak x) then return (acc, gap.broken, c)
        else
          let (gap, after) ← readGap indent (fuel + 1) gap c
          if !flow && after.column < indent then return (acc, gap.broken, after)
          else plainWords flow indent fuel gap acc after

/-- a plain scalar in a block at `indent`: its text, and whether it ended after a break -/
def plain (flow : Bool) (indent : Nat) (c : Cursor) : Option (String × Bool × Cursor) := do
  let (chars, broken, c) ← plainWords flow indent (c.rest.length + 1) .none [] c
  return (String.ofList chars.reverse, broken, c)

/-! ## quoted scalars -/

def hexNumber : Nat → Nat → Cursor → Option (Nat × Cursor)
  | 0, n, c => some (n, c)
  | digits + 1, n, c => do
    let x ← c.next?
    let d ← Token.hexValue x
    hexNumber digits (16 * n + d) c.skip

/-- a character given by a number of so many digits -/
def numbered (digits : Nat) (c : Cursor) : Option (Char × Cursor) := do
  let (n, c) ← hexNumber digits 0 c
  if (0xd800 ≤ n ∧ n ≤ 0xdfff) ∨ 0x10ffff < n then none else return (Char.ofNat n, c)

/-- the escapes of one letter -/
def letterEscape (x : Char) : Option Char :=
  match x with
  | '0' => some '\x00'
  | 'a' => some '\x07'
  | 'b' => some '\x08'
  | 't' => some '\t'
  | '\t' => some '\t'
  | 'n' => some '\n'
  | 'v' => some '\x0b'
  | 'f' => some '\x0c'
  | 'r' => some '\r'
  | 'e' => some '\x1b'
  | ' ' => some ' '
  | '"' => some '"'
  | '/' => some '/'
  | '\\' => some '\\'
  | 'N' => some '\u0085'
  | '_' => some '\u00a0'
  | 'L' => some '\u2028'
  | 'P' => some '\u2029'
  | _ => none

/-- an escape, from its backslash on -/
def escape (c : Cursor) : Option (Char × Cursor) := do
  let x ← c.ahead 1
  let c := c.skipBy 2
  match x with
  | 'x' => numbered 2 c
  | 'u' => numbered 4 c
  | 'U' => numbered 8 c
  | x => (letterEscape x).map (fun y => (y, c))

/-- why the word of a quoted scalar ended -/
inductive WordEnd where
  | quote | blank | escapedBreak
  deriving DecidableEq

/-- the word of a quoted scalar; `acc` holds its characters, the last one first -/
def quotedWord (single : Bool) : Nat → List Char → Cursor → Option (List Char × WordEnd × Cursor)
  | 0, acc, c => some (acc, .blank, c)
  | fuel + 1, acc, c =>
    match c.next? with
    | none => some (acc, .blank, c)
    | some x =>
      if endsWord (some x) then some (acc, .blank, c)
      else if single then
        if x != '\'' then quotedWord single fuel (x :: acc) c.skip
        else if c.ahead 1 == some '\'' then quotedWord single fuel ('\'' :: acc) (c.skipBy 2)
        else some (acc, .quote, c)
      else if x == '"' then some (acc, .quote, c)
      else if x != '\\' then quotedWord single fuel (x :: acc) c.skip
      else if ((c.ahead 1).map isBreak).getD false then some (acc, .escapedBreak, c.skip.skipBreak)
      else do
        let (y, c) ← escape c
        quotedWord single fuel (y :: acc) c

/-- the words of a quoted scalar up to its quote; `acc` holds the characters so far, the last one first -/
def quotedWords (single : Bool) : Nat → List Char → Cursor → Option (List Char × Cursor)
  | 0, _, _ => none
  | fuel + 1, acc, c =>
    if c.atDocumentMarker || c.next?.isNone then none
    else do
      let (acc, ended, c) ← quotedWord single (fuel + 1) acc c
      if ended = .quote then return (acc, c.skip)
      else if c.sees (if single then '\'' else '"') then return (acc, c.skip)
      else
        let start : Gap := if ended = .escapedBreak then ⟨[], true, [], []⟩ else .none
        let (gap, c) ← readGap 0 (fuel + 1) start c
        quotedWords single fuel (gap.chars.reverseAux acc) c

/-- a quoted scalar from its opening quote on -/
def quoted (single : Bool) (c : Cursor) : Option (String × Cursor) := do
  let (chars, c) ← quotedWords single (c.rest.length + 2) [] c.skip
  return (String.ofList chars.reverse, c)

/-! ## block scalars -/

/-- what becomes of the breaks at the end of a block scalar -/
inductive Chomp where
  /-- none is kept -/
  | strip
  /-- one is kept -/
  | clip
  /-- all are kept -/
  | keep
  deriving DecidableEq

/-- the sign for the breaks at the end -/
def chompSign : Option Char → Option Chomp
  | some '+' => some .keep
  | some '-' => some .strip
  | _ => none

/-- the digit for the indentation: none if there is no digit, and nothing if it is a zero -/
def indentDigit (c : Cursor) : Option (Nat × Cursor) :=
  match c.next? with
  | some x =>
    if !x.isDigit then some (0, c) else if x == '0' then none else some (x.toNat - 48, c.skip)
  | none => some (0, c)

/-- the two signs of a header in either order -/
def blockHeader (c : Cursor) : Option (Chomp × Nat × Cursor) :=
  match chompSign c.next? with
  | some chomp => do
    let (n, c) ← indentDigit c.skip
    return (chomp, n, c)
  | none => do
    let (n, c) ← indentDigit c
    if n = 0 then return (.clip, 0, c)
    else match chompSign c.next? with
      | some chomp => return (chomp, n, c.skip)
      | none => return (.clip, n, c)

/-- pass over indentation and empty lines: the breaks, and the greatest column reached. With `indent` zero the
indentation is not known yet -/
def blockBreaks (indent : Nat) : Nat → List Char → Nat → Cursor → Option (List Char × Nat × Cursor)
  | 0, breaks, widest, c => some (breaks, widest, c)
  | fuel + 1, breaks, widest, c =>
    let spaces := (c.rest.takeWhile (· == ' ')).length
    let c := c.skipBy (if indent = 0 then spaces else min spaces (indent - c.column))
    let widest := max widest c.column
    if (indent = 0 || c.column < indent) && c.sees '\t' then none
    else if (c.next?.map isBreak).getD false then
      let (b, c) := c.readBreak
      blockBreaks indent fuel (breaks ++ b) widest c
    else some (breaks, widest, c)

/-- the lines of a block scalar. `first` is the break before the next line, `more` the empty lines after it, `blank` says
whether the last line began with a blank; the characters so far have the last one first -/
def blockLines (literal : Bool) (indent : Nat) :
    Nat → (first more : List Char) → (blank : Bool) → List Char → Cursor →
      Option (List Char × List Char × List Char × Cursor)
  | 0, first, more, _, acc, c => some (acc, first, more, c)
  | fuel + 1, first, more, blank, acc, c =>
    if c.column != indent || c.next?.isNone then some (acc, first, more, c)
    else do
      let nextBlank := (c.next?.map isBlank).getD false
      let joint :=
        if !literal && first.head? == some '\n' && !blank && !nextBlank then (if more.isEmpty then [' '] else [])
        else first
      let line := c.rest.takeWhile (fun x => !isBreak x)
      let (first, c) := (c.skipBy line.length).readBreak
      let acc := (joint ++ more ++ line).reverseAux acc
      let (more, _, c) ← blockBreaks indent (c.rest.length + 1) [] 0 c
      blockLines literal indent fuel first more nextBlank acc c

/-- a block scalar from its sign on; `parent` is the indentation of the block around it, -1 outside all blocks -/
def block (literal : Bool) (parent : Int) (c : Cursor) : Option (String × Cursor) := do
  let (chomp, digit, c) ← blockHeader c.skip
  let c ← c.finishLine
  let given := if digit = 0 then 0 else (max parent 0).toNat + digit
  let (more, widest, c) ← blockBreaks given (c.rest.length + 1) [] 0 c
  let indent := if given = 0 then max (max widest (parent + 1).toNat) 1 else given
  let (chars, first, more, c) ← blockLines literal indent (c.rest.length + 1) [] more false [] c
  let tail := match chomp with
    | .strip => []
    | .clip => first
    | .keep => first ++ more
  return (String.ofList (chars.reverse ++ tail), c)

end LineTerminal.Yaml.ScalarText
