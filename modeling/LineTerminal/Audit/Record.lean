/-
Records of the audit trail.

A record says which component did what, with what outcome, to which object and for which request. It starts in progress
and is completed by changes, each of which sets one field; an error also makes the outcome a failure. Its JSON text gives
the fields in a fixed order and leaves out what is missing. The event that announces a record repeats the main fields
flat, with one word of its own for an outcome in progress.
-/
import LineTerminal.Json.Writer
import LineTerminal.Log.Line
import LineTerminal.Time.Timestamp

namespace LineTerminal.Audit

open Time (Timestamp)

inductive Category where
  | systemLifecycle | deviceActivation | ponInterface | balOperation | configurationChange | adminAction
  deriving DecidableEq, Repr

namespace Category

def all : List Category :=
  [systemLifecycle, deviceActivation, ponInterface, balOperation, configurationChange, adminAction]

/-- the word of a category, in texts and in messages -/
def name : Category → String
  | systemLifecycle => "SYSTEM_LIFECYCLE"
  | deviceActivation => "DEVICE_ACTIVATION"
  | ponInterface => "PON_INTERFACE"
  | balOperation => "BAL_OPERATION"
  | configurationChange => "CONFIGURATION_CHANGE"
  | adminAction => "ADMIN_ACTION"

end Category

/-- how an action ended -/
inductive Outcome where
  | success | failure | inProgress
  /-- only a part of the work was done -/
  | partly
  deriving DecidableEq, Repr

namespace Outcome

def all : List Outcome := [success, failure, inProgress, partly]

/-- the word of an outcome in a JSON text -/
def name : Outcome → String
  | success => "success"
  | failure => "failure"
  | inProgress => "inprogress"
  | partly => "partial"

/-- the word of an outcome in a message -/
def shown : Outcome → String
  | inProgress => "in_progress"
  | o => o.name

/-- the level at which a record is announced -/
def level : Outcome → Log.Level
  | success => .info
  | failure => .error
  | inProgress => .debug
  | partly => .warn

end Outcome

/-- an entry of the audit trail -/
structure Record where
  /-- when the record was made -/
  timestamp : Timestamp
  category : Category
  /-- the component that made the record -/
  source : String
  action : String
  outcome : Outcome
  objectId : Option String
  objectType : Option String
  details : Option Json
  error : Option String
  /-- the management request behind the action -/
  correlationId : Option String

/-- a change of one field -/
inductive Change where
  | outcome (o : Outcome)
  | objectId (id : String)
  | objectType (kind : String)
  | details (d : Json)
  | error (text : String)
  /-- none clears the field -/
  | correlationId (id : Option String)

namespace Record

/-- a record of an action in progress -/
def start (now : Timestamp) (category : Category) (source action : String) : Record :=
  ⟨now, category, source, action, .inProgress, none, none, none, none, none⟩

/-- apply a change; an error makes the outcome a failure -/
def change (r : Record) : Change → Record
  | .outcome o => { r with outcome := o }
  | .objectId id => { r with objectId := some id }
  | .objectType kind => { r with objectType := some kind }
  | .details d => { r with details := some d }
  | .error text => { r with error := some text, outcome := .failure }
  | .correlationId id => { r with correlationId := id }

def changes (r : Record) (cs : List Change) : Record := cs.foldl change r

/-- a member that is left out when it is missing -/
def given (name : String) (value : Option Json) : List (String × Json) :=
  match value with
  | none => []
  | some v => [(name, v)]

/-- the members of a record's JSON text, in their order -/
def members (r : Record) : List (String × Json) :=
  [("timestamp", .text r.timestamp.render), ("category", .text r.category.name), ("source", .text r.source),
    ("action", .text r.action), ("outcome", .text r.outcome.name)]
  ++ given "object_id" (r.objectId.map .text) ++ given "object_type" (r.objectType.map .text)
  ++ given "details" r.details ++ given "error" (r.error.map .text)
  ++ given "correlation_id" (r.correlationId.map .text)

def write (r : Record) : List Char := Json.write (.object r.members)

def render (r : Record) : String := String.ofList r.write

/-- the event that announces a record -/
def event (r : Record) : Log.Line where
  level := r.outcome.level
  target := .audit
  message := "AUDIT: " ++ r.category.name ++ " - " ++ r.action ++ " - " ++ r.outcome.shown
  fields :=
    [("category", .shown r.category.name), ("source", .shown r.source), ("action", .shown r.action),
     ("outcome", .shown r.outcome.shown), ("object_id", .literal (r.objectId.getD "")),
     ("error", .literal (r.error.getD "")), ("audit_json", .shown r.render)]

end Record

end LineTerminal.Audit
