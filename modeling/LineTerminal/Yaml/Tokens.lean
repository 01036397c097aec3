/-
The tokens of a whole YAML text.

Outside brackets the indentation decides where blocks begin and end, and a colon shows only afterwards that what stands
before it was a key: a place where such a key may have begun is remembered until it is too far back, and the tokens for
the key and for the block it opens are put in there.

`tokens` gives the tokens up to the end of the text, or those in front of the first mistake.
-/
import LineTerminal.Yaml.ScalarText

namespace LineTerminal.Yaml

/-- a place where a key may have begun -/
structure KeyPlace where
  /-- must a colon follow, because nothing else can stand at this column -/
  required : Bool
  /-- how many tokens stand before the place -/
  token : Nat
  index : Nat
  line : Nat
  column : Nat
  deriving Repr

/-- what has been read of a text -/
structure Lexer where
  cursor : Cursor
  tokens : Array Token
  /-- may a key begin here -/
  keyAllowed : Bool
  /-- where the latest key may have begun, for each open bracket and, last, outside of all -/
  keys : List (Option KeyPlace)
  /-- the column of the innermost block, -1 outside of all -/
  indent : Int
  /-- the columns of the blocks around it -/
  indents : List Int

namespace Lexer

def start (cs : List Char) : Lexer := ⟨.start cs, #[], true, [none], -1, []⟩

def inFlow (x : Lexer) : Bool := 1 < x.keys.length

def push (x : Lexer) (t : Token) : Lexer := { x with tokens := x.tokens.push t }

/-- a token of so many characters -/
def sign (x : Lexer) (t : Token) (n : Nat) : Lexer := { x.push t with cursor := x.cursor.skipBy n }

/-- put a token in front of the token with a number -/
def insert (x : Lexer) (n : Nat) (t : Token) : Lexer := { x with tokens := x.tokens.insertIdxIfInBounds n t }

/-- the place of the latest possible key -/
def key? (x : Lexer) : Option KeyPlace := x.keys.head?.join

/-- no key can begin any more where one could have begun; it must not have been required -/
def forgetKey (x : Lexer) : Option Lexer :=
  match x.keys with
  | some k :: rest => if k.required then none else some { x with keys := none :: rest }
  | _ => some x

def markKey (x : Lexer) : Option Lexer :=
  if !x.keyAllowed then some x
  else do
    let x ← x.forgetKey
    let c := x.cursor
    let place : KeyPlace := ⟨!x.inFlow && x.indent == c.column, x.tokens.size, c.index, c.line, c.column⟩
    return { x with keys := some place :: x.keys.tail }

/-- a key has to stand on one line, and its colon less than 1024 characters after its beginning -/
def isStale (c : Cursor) (k : KeyPlace) : Bool := k.line < c.line || k.index + 1024 < c.index

/-- give up places that are too far back -/
def dropStale (x : Lexer) : Option Lexer := do
  let keys ← x.keys.mapM (fun key? => match key? with
    | none => some none
    | some k => if isStale x.cursor k then (if k.required then none else some none) else some (some k))
  return { x with keys := keys }

/-- the blocks that are left when those further to the right than `column` end: the tokens for their ends are added, then
come the column of the innermost block and those around it -/
def outerBlocks (column : Int) : List Int → Int → Array Token → Array Token × Int × List Int
  | [], indent, ts => if column < indent then (ts.push .blockEnd, -1, []) else (ts, indent, [])
  | outer :: rest, indent, ts =>
    if column < indent then outerBlocks column rest outer (ts.push .blockEnd) else (ts, indent, outer :: rest)

/-- close the blocks that are further to the right than `column` -/
def closeBlocks (x : Lexer) (column : Int) : Lexer :=
  if x.inFlow then x
  else
    let (ts, indent, indents) := outerBlocks column x.indents x.indent x.tokens
    { x with tokens := ts, indent := indent, indents := indents }

/-- open a block at a column further to the right; its token is put in front of the token with a number -/
def openBlock (x : Lexer) (column : Nat) (n : Nat) (t : Token) : Lexer :=
  if x.inFlow || (column : Int) ≤ x.indent then x
  else { x.insert n t with indent := column, indents := x.indent :: x.indents }

/-- pass over blanks, comments and empty lines -/
def toNextToken : Nat → Lexer → Lexer
  | 0, x => x
  | fuel + 1, x =>
    let c := x.cursor
    let c := if c.column == 0 && (c.next?.map isByteOrderMark).getD false then c.skip else c
    let c := c.skipWhile (fun y => y == ' ' || ((x.inFlow || !x.keyAllowed) && y == '\t'))
    let c := c.skipComment
    if (c.next?.map isBreak).getD false then
      toNextToken fuel { x with cursor := c.skipBreak, keyAllowed := x.keyAllowed || !x.inFlow }
    else { x with cursor := c }

def streamEnd (x : Lexer) : Option Lexer := do
  let x ← (x.closeBlocks (-1)).forgetKey
  return { x.push .streamEnd with keyAllowed := false }

def directive (x : Lexer) : Option Lexer := do
  let x ← (x.closeBlocks (-1)).forgetKey
  let (t, c) ← Token.directive x.cursor
  return { x.push t with cursor := c, keyAllowed := false }

def documentMarker (x : Lexer) (t : Token) : Option Lexer := do
  let x ← (x.closeBlocks (-1)).forgetKey
  return { x.sign t 3 with keyAllowed := false }

def openFlow (x : Lexer) (t : Token) : Option Lexer := do
  let x ← x.markKey
  return { x.sign t 1 with keys := none :: x.keys, keyAllowed := true }

def closeFlow (x : Lexer) (t : Token) : Option Lexer := do
  let x ← x.forgetKey
  return { x.sign t 1 with keys := if x.inFlow then x.keys.tail else x.keys, keyAllowed := false }

def flowEntry (x : Lexer) : Option Lexer := do
  let x ← x.forgetKey
  return { x.sign .flowEntry 1 with keyAllowed := true }

def blockEntry (x : Lexer) : Option Lexer := do
  if !x.inFlow && !x.keyAllowed then none
  else
    let x ← (x.openBlock x.cursor.column x.tokens.size .blockSequence).forgetKey
    return { x.sign .blockEntry 1 with keyAllowed := true }

def explicitKey (x : Lexer) : Option Lexer := do
  if !x.inFlow && !x.keyAllowed then none
  else
    let x ← (x.openBlock x.cursor.column x.tokens.size .blockMapping).forgetKey
    return { x.sign .key 1 with keyAllowed := !x.inFlow }

/-- the colon of a value: what stood before it on the line may have been its key -/
def value (x : Lexer) : Option Lexer :=
  match x.key? with
  | some k =>
    let x := (x.insert k.token .key).openBlock k.column k.token .blockMapping
    some { x.sign .value 1 with keys := none :: x.keys.tail, keyAllowed := false }
  | none =>
    if !x.inFlow && !x.keyAllowed then none
    else
      let x := x.openBlock x.cursor.column x.tokens.size .blockMapping
      some { x.sign .value 1 with keyAllowed := !x.inFlow }

def keyStart (x : Lexer) (read : Cursor → Option (Token × Cursor)) : Option Lexer := do
  let x ← x.markKey
  let (t, c) ← read x.cursor
  return { x.push t with cursor := c, keyAllowed := false }

def blockScalar (x : Lexer) (literal : Bool) : Option Lexer := do
  let x ← x.forgetKey
  let (s, c) ← ScalarText.block literal x.indent x.cursor
  return { x.push (.scalar (if literal then .literal else .folded) s) with cursor := c, keyAllowed := true }

def quotedScalar (x : Lexer) (single : Bool) : Option Lexer :=
  x.keyStart (fun c => (ScalarText.quoted single c).map (fun (s, c) =>
    (.scalar (if single then .single else .double) s, c)))

def plainScalar (x : Lexer) : Option Lexer := do
  let x ← x.markKey
  let (s, broken, c) ← ScalarText.plain x.inFlow (x.indent + 1).toNat x.cursor
  return { x.push (.scalar .plain s) with cursor := c, keyAllowed := broken }

/-- the signs that no plain scalar begins with -/
def isSign (c : Char) : Bool :=
  ['-', '?', ':', ',', '[', ']', '\x7b', '\x7d', '#', '&', '*', '!', '|', '>', '\'', '"', '%', '@', '\x60'].contains c

/-- can a plain scalar begin with a character, given the one after it -/
def beginsPlain (flow : Bool) (c : Char) (next : Option Char) : Bool :=
  !(endsWord (some c) || isSign c)
    || (c == '-' && !(next.map isBlank).getD false)
    || (!flow && (c == '?' || c == ':') && !endsWord next)

/-- the next token, and the blocks that end in front of it -/
def readNext (x : Lexer) : Option Lexer := do
  let x := x.toNextToken (x.cursor.rest.length + 1)
  let x ← x.dropStale
  let x := x.closeBlocks x.cursor.column
  let c := x.cursor
  let flow := x.inFlow
  match c.next? with
  | none => x.streamEnd
  | some y =>
    let ends := endsWord (c.ahead 1)
    if c.column == 0 && y == '%' then x.directive
    else if c.atMarker '-' then x.documentMarker .documentStart
    else if c.atMarker '.' then x.documentMarker .documentEnd
    else if y == '[' then x.openFlow .flowSequence
    else if y == '\x7b' then x.openFlow .flowMapping
    else if y == ']' then x.closeFlow .flowSequenceEnd
    else if y == '\x7d' then x.closeFlow .flowMappingEnd
    else if y == ',' then x.flowEntry
    else if y == '-' && ends then x.blockEntry
    else if y == '?' && (flow || ends) then x.explicitKey
    else if y == ':' && (flow || ends) then x.value
    else if y == '*' then x.keyStart (fun c => (Token.anchorName c).map (fun (n, c) => (.reference n, c)))
    else if y == '&' then x.keyStart (fun c => (Token.anchorName c).map (fun (n, c) => (.anchor n, c)))
    else if y == '!' then x.keyStart (Token.nodeTag flow)
    else if y == '|' && !flow then x.blockScalar true
    else if y == '>' && !flow then x.blockScalar false
    else if y == '\'' then x.quotedScalar true
    else if y == '"' then x.quotedScalar false
    else if beginsPlain flow y (c.ahead 1) then x.plainScalar
    else none

/-- one step: the next token, with places given up that are too far back after it -/
def step (x : Lexer) : Option Lexer := x.readNext.bind dropStale

/-- the tokens that are settled: a token that may still turn out to begin a key is not, nor is what follows it -/
def settled (x : Lexer) : List Token :=
  x.tokens.toList.take ((x.keys.filterMap (·.map (·.token))).foldl min x.tokens.size)

/-- read tokens to the end, or to the first mistake -/
def run : Nat → Lexer → List Token
  | 0, x => x.settled
  | fuel + 1, x =>
    match x.step with
    | none => x.settled
    | some y => if y.tokens.back? == some .streamEnd then y.tokens.toList else run fuel y

end Lexer

def tokens (text : String) : List Token :=
  let cs := text.toList
  if cs.all isAllowed then Lexer.run (cs.length + 2) (.start cs) else []

end LineTerminal.Yaml
