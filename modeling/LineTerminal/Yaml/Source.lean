/-
Records read from YAML documents.

A record is a mapping, or nothing at all; what it may hold is found by the texts of its keys. A scalar is read by its
text, so that quotes decide only between numbers and texts. A named alternative is its name, or a tag of the document's
own with that name before nothing. An alias is read as the node it stands for.

A mismatch comes with the names that lead to the innermost value which was being read.
-/
import LineTerminal.Schema
import LineTerminal.Yaml.Document
import LineTerminal.Yaml.Scalar

namespace LineTerminal.Yaml

open Schema (Seen Mismatch Field Source)

/-- the names that lead to a value; none for a key that is an alias -/
abbrev Path := List (Option String)

def renderPath (path : Path) : String := ".".intercalate (path.map (·.getD "?"))

/-- why a document is not what it should be -/
inductive Fault where
  | mismatch (path : Path) (m : Mismatch)
  | mistake (m : Mistake)
  deriving Repr

/-- how a mismatch in a document is worded -/
def wording : Schema.Wording := ⟨"unit value", .positional⟩

def Fault.message : Fault → String
  | mismatch [] m => m.message wording
  | mismatch path m => renderPath path ++ ": " ++ m.message wording
  | mistake m => m.message

/-- a node in its document -/
structure Located where
  document : Document
  path : Path
  /-- the node; none in an empty text -/
  node : Option Node

namespace Located

/-- the node that an alias stands for; other nodes are themselves -/
def target (v : Located) : Option Node :=
  match v.node.map Node.bare with
  | some (.reference a) => some (v.document.target a)
  | node => node

def isAlias (v : Located) : Bool :=
  match v.node.map Node.bare with
  | some (.reference _) => true
  | _ => false

def refuse {α : Type} (v : Located) (m : Mismatch) : Except Fault α := .error (.mismatch v.path m)

def breakOff {α : Type} (v : Located) : Except Fault α := .error (.mistake (v.document.mistake.getD .malformed))

/-- lift the result of a check at the node -/
def check {α : Type} (v : Located) : Except Mismatch α → Except Fault α
  | .ok a => .ok a
  | .error m => v.refuse m

def unexpected {α : Type} (v : Located) (expected : String) : Except Fault α :=
  match v.target with
  | none => v.refuse (.invalidType .nothing expected)
  | some (.scalar tag style s) => do
    let seen ← v.check (Scalar.seen tag style s)
    v.refuse (.invalidType seen expected)
  | some (.sequence ..) => v.refuse (.invalidType .sequence expected)
  | some (.mapping ..) => v.refuse (.invalidType .map expected)
  | some _ => v.breakOff

/-- a scalar that may stand for a value with a tag and does, by its text -/
def plainly {α : Type} (v : Located) (tag expected : String) (read : String → Option α) : Except Fault α :=
  let found := match v.target with
    | some (.scalar tag' style s) => if Scalar.mayStandFor tag tag' style then read s else none
    | _ => none
  match found with
  | some a => .ok a
  | none => v.unexpected expected

/-- a whole number below `bound` -/
def whole (v : Located) (expected : String) (bound : Nat) : Except Fault Nat := do
  let n ← v.plainly Scalar.intTag expected Scalar.natural?
  if n < bound then return n else v.refuse (.invalidValue (.integer n) expected)

def text (v : Located) (expected : String) : Except Fault String :=
  match v.target with
  | some (.scalar _ _ s) => .ok s
  | _ => v.unexpected expected

/-- nothing, as it has to stand after the tag of an alternative -/
def nothing (v : Located) : Except Fault Unit :=
  match v.target with
  | some (.scalar _ style s) =>
    if style = .plain && (s.isEmpty || Scalar.isNull s) then .ok () else v.refuse (.invalidValue (.text s) "null")
  | _ => v.unexpected "unit"

/-- the name that a tag of the document's own gives -/
def ownName : Option String → Option String
  | some tag => if tag.startsWith "!" then some (String.ofList (tag.toList.drop 1)) else none
  | none => none

/-- the alternative that a tag names, with nothing after the tag; an unknown name counts for the value around this one,
unless an alias leads here -/
def tagged {α : Type} (v : Located) (known : List (String × α)) (name : String) : Except Fault α :=
  match Schema.choose known name with
  | .ok a => v.nothing.map (fun _ => a)
  | .error m => .error (.mismatch (if v.isAlias then v.path else v.path.dropLast) m)

def choice {α : Type} (known : List (String × α)) (v : Located) : Except Fault α :=
  match v.target with
  | some (.scalar tag _ s) =>
    match ownName tag with
    | some name => v.tagged known name
    | none => v.check (Schema.choose known s)
  | some (.sequence tag _) =>
    match ownName tag with
    | some name => v.tagged known name
    | none => v.refuse (.invalidType .sequence "a YAML tag starting with '!'")
  | some (.mapping tag _) =>
    match ownName tag with
    | some name => v.tagged known name
    | none => v.refuse (.invalidType .map "a YAML tag starting with '!'")
  | none => v.unexpected "a YAML tag starting with '!'"
  | some _ => v.breakOff

/-- the entries of a mapping, one after another; `seen` holds the names so far -/
def readEntries {α : Type} (v : Located) (fields : List (Field Located Fault α)) (seen : List String) (start : α) :
    List (Node × Node) → Except Fault α
  | [] => .ok start
  | (key, value) :: rest => do
    let place : Located := ⟨v.document, v.path, some key⟩
    let name ← place.text "field identifier"
    let field ← v.check (Schema.fieldNamed fields name)
    if seen.contains name then v.refuse (.duplicateField name)
    else
      let step := if place.isAlias then none else some name
      let next ← field.read ⟨v.document, v.path ++ [step], some value⟩ start
      readEntries v fields (name :: seen) next rest

def record {α : Type} (name : String) (fields : List (Field Located Fault α)) (start : α) (v : Located) :
    Except Fault α :=
  match v.target with
  | some (.mapping _ entries) => v.readEntries fields [] start entries
  | some (.scalar _ style s) =>
    if style = .plain && s.isEmpty then .ok start else v.unexpected ("struct " ++ name)
  | none => .ok start
  | _ => v.unexpected ("struct " ++ name)

end Located

/-- the nodes of documents as the source of records -/
def source : Source Located Fault where
  word v := (v.whole "u32" UInt32.size).map (·.toUInt32)
  size v := (v.whole "usize" UInt64.size).map (·.toUInt64)
  flag v := v.plainly Scalar.boolTag "a boolean" Scalar.flag?
  text v := v.text "a string"
  choice := Located.choice
  record := Located.record

/-- read a whole document; a mistake after what was read counts when nothing else is wrong -/
def Document.decode {α : Type} (d : Document) (read : Located → Except Fault α) : Except Fault α := do
  let a ← read ⟨d, [], d.root⟩
  match d.mistake with
  | some m => .error (.mistake m)
  | none => return a

end LineTerminal.Yaml
