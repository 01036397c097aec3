/-
One line of the operational log.

A line has a level, the target it is filtered by, a message and named fields; the component that wrote it is one of them.
A field keeps the kind of its value, because a layout shows a text that was given literally otherwise than a rendered one.
`Format` names the layouts.
-/
namespace LineTerminal.Log

inductive Level where
  | error | warn | info | debug | trace
  deriving DecidableEq, Repr

namespace Level

/-- every level, the most urgent first -/
def all : List Level := [error, warn, info, debug, trace]

/-- the word of a level in capitals -/
def name : Level → String
  | error => "ERROR"
  | warn => "WARN"
  | info => "INFO"
  | debug => "DEBUG"
  | trace => "TRACE"

/-- the place of a level: 1 is the most urgent -/
def rank : Level → Nat
  | error => 1
  | warn => 2
  | info => 3
  | debug => 4
  | trace => 5

end Level

/-- the parts of the program that write lines -/
inductive Target where
  | audit | main | daemon | enabling | hostLibrary
  deriving DecidableEq, Repr

/-- the path a target is filtered by -/
def Target.path : Target → String
  | .audit => "audit"
  | .main => "openolt_agent"
  | .daemon => "openolt_agent::daemon::agentdaemon"
  | .enabling => "openolt_agent::olt::orch"
  | .hostLibrary => "openolt_bal::api::host"

inductive Value where
  | number (n : Nat)
  | flag (b : Bool)
  /-- a text that was rendered for the line -/
  | shown (text : String)
  /-- a text given as it is -/
  | literal (text : String)
  deriving DecidableEq, Repr

structure Line where
  level : Level
  target : Target
  message : String
  /-- named values in the order in which they were given -/
  fields : List (String × Value)
  deriving DecidableEq, Repr

/-- a line of a component, whose name is the first field -/
def Line.of (level : Level) (target : Target) (source message : String) (fields : List (String × Value)) : Line :=
  ⟨level, target, message, ("source", .literal source) :: fields⟩

def Line.field? (l : Line) (name : String) : Option Value := l.fields.lookup name

theorem Line.isSome_field? (l : Line) (name : String) :
    (l.field? name).isSome = (l.fields.map (·.1)).contains name := by
  rw [Line.field?]
  induction l.fields with
  | nil => rfl
  | cons field fields ih =>
    rw [List.lookup_cons, List.map_cons, List.contains_cons]
    cases name == field.1 with
    | true => rfl
    | false => exact ih

inductive Format where
  /-- one JSON object per event -/
  | json
  /-- readable lines -/
  | pretty
  deriving DecidableEq, Repr

def Format.all : List Format := [.json, .pretty]

def Format.name : Format → String
  | .json => "json"
  | .pretty => "pretty"

end LineTerminal.Log
