/-
The tokens of a YAML text, and those of them that stand on one line: directives, anchors and tags.
-/
import LineTerminal.Yaml.Cursor

namespace LineTerminal.Yaml

/-- how a scalar is written -/
inductive Style where
  | plain | single | double | literal | folded
  deriving DecidableEq, Repr

inductive Token where
  | streamEnd
  /-- a directive about the version -/
  | version (major minor : Nat)
  /-- a directive about a handle of tags -/
  | handle (name target : String)
  | documentStart | documentEnd
  | blockSequence | blockMapping | blockEnd | blockEntry
  | flowSequence | flowSequenceEnd | flowMapping | flowMappingEnd | flowEntry
  | key | value
  | reference (name : String)
  | anchor (name : String)
  /-- a tag: its handle and the rest -/
  | tag (handle suffix : String)
  | scalar (style : Style) (text : String)
  deriving DecidableEq, Repr

namespace Token

/-- the characters of a name -/
def word (c : Cursor) : String × Cursor :=
  let w := c.rest.takeWhile isWord
  (String.ofList w, c.skipBy w.length)

/-- the number of a version; at most nine digits -/
def versionNumber (c : Cursor) : Option (Nat × Cursor) :=
  let ds := c.rest.takeWhile Char.isDigit
  if ds.isEmpty || 9 < ds.length then none
  else some (ds.foldl (fun n d => 10 * n + (d.toNat - 48)) 0, c.skipBy ds.length)

def hexValue (c : Char) : Option Nat :=
  if '0' ≤ c ∧ c ≤ '9' then some (c.toNat - 48)
  else if 'a' ≤ c ∧ c ≤ 'f' then some (c.toNat - 87)
  else if 'A' ≤ c ∧ c ≤ 'F' then some (c.toNat - 55)
  else none

/-- a byte written as a percent sign and two digits -/
def escapedByte (c : Cursor) : Option (Nat × Cursor) :=
  match c.rest with
  | '%' :: a :: b :: _ => do
    let a ← hexValue a
    let b ← hexValue b
    return (16 * a + b, c.skipBy 3)
  | _ => none

/-- how many bytes a character has whose first byte is this -/
def characterWidth (byte : Nat) : Option Nat :=
  if byte < 0x80 then some 1
  else if 0xc0 ≤ byte ∧ byte < 0xe0 then some 2
  else if 0xe0 ≤ byte ∧ byte < 0xf0 then some 3
  else if 0xf0 ≤ byte ∧ byte < 0xf8 then some 4
  else none

/-- the further bytes of a character -/
def furtherBytes : Nat → List Nat → Cursor → Option (List Nat × Cursor)
  | 0, acc, c => some (acc.reverse, c)
  | n + 1, acc, c => do
    let (b, c) ← escapedByte c
    if 0x80 ≤ b ∧ b < 0xc0 then furtherBytes n (b :: acc) c else none

/-- a character written as escaped bytes -/
def escapedCharacter (c : Cursor) : Option (Char × Cursor) := do
  let (first, c) ← escapedByte c
  let width ← characterWidth first
  let (more, c) ← furtherBytes (width - 1) [] c
  let lead :=
    if width = 1 then first else if width = 2 then first % 0x20 else if width = 3 then first % 0x10 else first % 8
  return (Char.ofNat (more.foldl (fun n b => 64 * n + b % 64) lead), c)

/-- the characters of tags; three more are allowed between angle brackets and in directives -/
def isTagChar (wide : Bool) (c : Char) : Bool :=
  isWord c || c == ';' || c == '/' || c == '?' || c == ':' || c == '@' || c == '&' || c == '=' || c == '+' || c == '$'
    || c == '.' || c == '%' || c == '!' || c == '~' || c == '*' || c == '\'' || c == '(' || c == ')'
    || (wide && (c == ',' || c == '[' || c == ']'))

/-- the characters of a tag; the first argument bounds their number -/
def tagChars (wide : Bool) : Nat → List Char → Cursor → Option (List Char × Cursor)
  | 0, acc, c => some (acc.reverse, c)
  | fuel + 1, acc, c =>
    match c.next? with
    | none => some (acc.reverse, c)
    | some x =>
      if !isTagChar wide x then some (acc.reverse, c)
      else if x == '%' then do
        let (y, c) ← escapedCharacter c
        tagChars wide fuel (y :: acc) c
      else tagChars wide fuel (x :: acc) c.skip

/-- a tag after `head`, whose exclamation mark does not count; with nothing in `head` it may not be empty -/
def tagText (wide : Bool) (head : List Char) (c : Cursor) : Option (List Char × Cursor) := do
  let (chars, c) ← tagChars wide c.rest.length [] c
  if head.isEmpty && chars.isEmpty then none else return (head.drop 1 ++ chars, c)

/-- a handle: an exclamation mark, a word, and mostly another exclamation mark -/
def tagHandle (directive : Bool) (c : Cursor) : Option (List Char × Cursor) :=
  if !c.sees '!' then none
  else
    let (w, c) := word c.skip
    let chars := '!' :: w.toList
    if c.sees '!' then some (chars ++ ['!'], c.skip)
    else if directive && !w.isEmpty then none
    else some (chars, c)

def directive (c : Cursor) : Option (Token × Cursor) := do
  let (name, c) := word c.skip
  if name.isEmpty || !endsWord c.next? then none
  else if name = "YAML" then
    let (major, c) ← versionNumber (c.skipWhile isBlank)
    if !c.sees '.' then none
    else
      let (minor, c) ← versionNumber c.skip
      let c ← c.finishLine
      return (.version major minor, c)
  else if name = "TAG" then
    let (name, c) ← tagHandle true (c.skipWhile isBlank)
    if !(c.next?.map isBlank).getD false then none
    else
      let (target, c) ← tagText true [] (c.skipWhile isBlank)
      if !endsWord c.next? then none
      else
        let c ← c.finishLine
        return (.handle (String.ofList name) (String.ofList target), c)
  else none

/-- the name of an anchor or an alias, after its sign -/
def anchorName (c : Cursor) : Option (String × Cursor) :=
  let (name, c) := word c.skip
  let ends := match c.next? with
    | none => true
    | some x => endsWord (some x) || ['?', ':', ',', ']', '\x7d', '%', '@', '\x60'].contains x
  if name.isEmpty || !ends then none else some (name, c)

def nodeTag (flow : Bool) (c : Cursor) : Option (Token × Cursor) := do
  let (head, suffix, c) ←
    if c.ahead 1 == some '<' then do
      let (suffix, c) ← tagText true [] (c.skipBy 2)
      if c.sees '>' then pure ([], suffix, c.skip) else none
    else do
      let (head, after) ← tagHandle false c
      if 1 < head.length && head.getLast? == some '!' then
        let (suffix, after) ← tagText false [] after
        pure (head, suffix, after)
      else
        let (suffix, after) ← tagText false head after
        pure (if suffix.isEmpty then ([], ['!'], after) else (['!'], suffix, after))
  if endsWord c.next? || (flow && c.sees ',') then
    return (.tag (String.ofList head) (String.ofList suffix), c)
  else none

end Token

end LineTerminal.Yaml
