/-
Reading audit records from JSON texts.

A record is an object with the fields in any order, or an array of all ten in the fixed order. Optional fields may be
null or missing, fields that are not known are passed over, and no field may come twice. Faults are found in the order of
the text; a field that is missing is found at the end.
-/
import LineTerminal.Audit.Record
import LineTerminal.Json.Reader
import LineTerminal.Json.Source
import LineTerminal.Time.Reader

namespace LineTerminal.Audit

open Json (Fault)
open Schema (Mismatch Seen)
open Time (Timestamp)

def categories : List (String × Category) := Schema.named Category.name Category.all

def outcomes : List (String × Outcome) := Schema.named Outcome.name Outcome.all

/-- a record with some of its fields -/
structure Draft where
  timestamp : Option Timestamp
  category : Option Category
  source : Option String
  action : Option String
  outcome : Option Outcome
  /-- an optional field that was read is `some`, also when it was null -/
  objectId : Option (Option String)
  objectType : Option (Option String)
  details : Option (Option Json)
  error : Option (Option String)
  correlationId : Option (Option String)

def Draft.blank : Draft := ⟨none, none, none, none, none, none, none, none, none, none⟩

inductive Key where
  | timestamp | category | source | action | outcome | objectId | objectType | details | error | correlationId
  deriving DecidableEq, Repr

/-- the fields of a record in their order -/
def Key.all : List Key :=
  [timestamp, category, source, action, outcome, objectId, objectType, details, error, correlationId]

def Key.name : Key → String
  | timestamp => "timestamp"
  | category => "category"
  | source => "source"
  | action => "action"
  | outcome => "outcome"
  | objectId => "object_id"
  | objectType => "object_type"
  | details => "details"
  | error => "error"
  | correlationId => "correlation_id"

def Key.named? (name : String) : Option Key := all.find? (·.name == name)

namespace Reader

/-- the fault of a value of another type at the beginning of the text -/
def unexpected (expected : String) : List Char → Fault
  | [] => .expectedValue
  | c :: rest =>
    let wrong (s : Seen) : Fault := .mismatch (.invalidType s expected)
    let read {α : Type} (r : Except Fault α) (seen : α → Seen) : Fault := match r with
      | .error e => e
      | .ok a => wrong (seen a)
    if c = 'n' then read (Json.scanWord ['u', 'l', 'l'] rest) (fun _ => .nothing)
    else if c = 't' then read (Json.scanWord ['r', 'u', 'e'] rest) (fun _ => .bool true)
    else if c = 'f' then read (Json.scanWord ['a', 'l', 's', 'e'] rest) (fun _ => .bool false)
    else if c = '-' then read (Json.readNumber true rest) (fun n => n.1.seen)
    else if c.isDigit then read (Json.readNumber false (c :: rest)) (fun n => n.1.seen)
    else if c = '"' then read (Json.readText rest) (fun s => .text s.1)
    else if c = '[' then wrong .sequence
    else if c = '\x7b' then wrong .map
    else .expectedValue

def text (expected : String) (cs : List Char) : Except Fault (String × List Char) :=
  match Json.skipBlanks cs with
  | [] => .error .endInValue
  | '"' :: rest => Json.readText rest
  | cs => .error (unexpected expected cs)

def optional {α : Type} (read : List Char → Except Fault (α × List Char)) (cs : List Char) :
    Except Fault (Option α × List Char) :=
  match Json.skipBlanks cs with
  | 'n' :: rest => (Json.scanWord ['u', 'l', 'l'] rest).map (fun r => (none, r))
  | cs => (read cs).map (fun (a, r) => (some a, r))

def timestamp (cs : List Char) : Except Fault (Timestamp × List Char) := do
  let (s, rest) ← text "an RFC 3339 formatted date and time string" cs
  match Timestamp.read s with
  | .ok t => return (t, rest)
  | .error e => .error (.other e.message)

/-- null and nothing else -/
def unit (cs : List Char) : Except Fault (List Char) :=
  match Json.skipBlanks cs with
  | [] => .error .endInValue
  | 'n' :: rest => Json.scanWord ['u', 'l', 'l'] rest
  | cs => .error (unexpected "unit" cs)

/-- the end of an object with one member -/
def singleEnd (cs : List Char) : Except Fault (List Char) :=
  match Json.skipBlanks cs with
  | [] => .error .endInObject
  | '\x7d' :: rest => .ok rest
  | _ => .error .expectedValue

/-- a named alternative: its name, or an object with the name and null -/
def choice {α : Type} (known : List (String × α)) (depth : Nat) (cs : List Char) : Except Fault (α × List Char) :=
  let named (s : String) : Except Fault α := match Schema.choose known s with
    | .ok a => .ok a
    | .error m => .error (.mismatch m)
  match Json.skipBlanks cs with
  | [] => .error .endInValue
  | '"' :: rest => do
    let (s, rest) ← Json.readText rest
    let a ← named s
    return (a, rest)
  | '\x7b' :: rest => do
    let _ ← Json.deeper depth
    let (s, rest) ← text "variant identifier" rest
    let a ← named s
    let rest ← Json.scanColon rest
    let rest ← unit rest
    let rest ← singleEnd rest
    return (a, rest)
  | _ => .error .expectedValue

/-- a value that is kept as it is -/
def anything (depth : Nat) (cs : List Char) : Except Fault (Json × List Char) :=
  Json.readValue depth (Json.steps cs) cs

end Reader

namespace Draft

/-- read the value of a field; `depth` is what is left of the depth -/
def readField (depth : Nat) (d : Draft) (key : Key) (cs : List Char) : Except Fault (Draft × List Char) :=
  let plain := Reader.text "a string"
  match key with
  | .timestamp => (Reader.timestamp cs).map (fun (v, r) => ({ d with timestamp := some v }, r))
  | .category => (Reader.choice categories depth cs).map (fun (v, r) => ({ d with category := some v }, r))
  | .source => (plain cs).map (fun (v, r) => ({ d with source := some v }, r))
  | .action => (plain cs).map (fun (v, r) => ({ d with action := some v }, r))
  | .outcome => (Reader.choice outcomes depth cs).map (fun (v, r) => ({ d with outcome := some v }, r))
  | .objectId => (Reader.optional plain cs).map (fun (v, r) => ({ d with objectId := some v }, r))
  | .objectType => (Reader.optional plain cs).map (fun (v, r) => ({ d with objectType := some v }, r))
  | .details => (Reader.optional (Reader.anything depth) cs).map (fun (v, r) => ({ d with details := some v }, r))
  | .error => (Reader.optional plain cs).map (fun (v, r) => ({ d with error := some v }, r))
  | .correlationId => (Reader.optional plain cs).map (fun (v, r) => ({ d with correlationId := some v }, r))

def has (d : Draft) : Key → Bool
  | .timestamp => d.timestamp.isSome
  | .category => d.category.isSome
  | .source => d.source.isSome
  | .action => d.action.isSome
  | .outcome => d.outcome.isSome
  | .objectId => d.objectId.isSome
  | .objectType => d.objectType.isSome
  | .details => d.details.isSome
  | .error => d.error.isSome
  | .correlationId => d.correlationId.isSome

/-- the record, if nothing is missing -/
def finish (d : Draft) : Except Mismatch Record := do
  let required {α : Type} (key : Key) : Option α → Except Mismatch α
    | some v => .ok v
    | none => .error (.missingField key.name)
  let timestamp ← required .timestamp d.timestamp
  let category ← required .category d.category
  let source ← required .source d.source
  let action ← required .action d.action
  let outcome ← required .outcome d.outcome
  return ⟨timestamp, category, source, action, outcome, d.objectId.join, d.objectType.join, d.details.join,
    d.error.join, d.correlationId.join⟩

/-- the members of an object up to its end -/
def readMembers (depth : Nat) (first : Bool) (d : Draft) : Nat → List Char → Except Fault (Draft × List Char)
  | 0, _ => .error .endInObject
  | fuel + 1, cs => do
    let (more, cs) ← Json.nextName first cs
    if !more then return (d, cs)
    let (name, cs) ← Json.readText cs
    match Key.named? name with
    | none =>
      let cs ← Json.scanColon cs
      let cs ← Json.skip cs
      readMembers depth false d fuel cs
    | some key =>
      if d.has key then .error (.mismatch (.duplicateField name))
      else
        let cs ← Json.scanColon cs
        let (d, cs) ← d.readField depth key cs
        readMembers depth false d fuel cs

/-- the items of an array, one for each field -/
def readItems (depth : Nat) (count : Nat) (d : Draft) : List Key → List Char → Except Fault (Draft × List Char)
  | [], cs => .ok (d, cs)
  | key :: keys, cs => do
    let (more, cs) ← Json.nextItem (count == 0) cs
    if !more then .error (.mismatch (.invalidLength count "struct AuditRecord with 10 elements"))
    else
      let (d, cs) ← d.readField depth key cs
      readItems depth (count + 1) d keys cs

end Draft

/-- the end of an array all of whose items have been read -/
def arrayEnd (cs : List Char) : Except Fault (List Char) :=
  match Json.skipBlanks cs with
  | [] => .error .endInList
  | ']' :: rest => .ok rest
  | ',' :: rest => match Json.skipBlanks rest with
    | ']' :: _ => .error .trailingComma
    | _ => .error .trailingCharacters
  | _ => .error .trailingCharacters

def finished (d : Draft) : Except Fault Record :=
  match d.finish with
  | .ok r => .ok r
  | .error m => .error (.mismatch m)

def Record.read (s : String) : Except Fault Record := do
  match Json.skipBlanks s.toList with
  | [] => .error .endInValue
  | '\x7b' :: rest =>
    let depth ← Json.deeper Json.depthLimit
    let (d, rest) ← Draft.blank.readMembers depth true (rest.length + 1) rest
    let r ← finished d
    Json.atEnd rest
    return r
  | '[' :: rest =>
    let depth ← Json.deeper Json.depthLimit
    let (d, rest) ← Draft.blank.readItems depth 0 Key.all rest
    let r ← finished d
    let rest ← arrayEnd rest
    Json.atEnd rest
    return r
  | cs => .error (Reader.unexpected "struct AuditRecord" cs)

end LineTerminal.Audit
