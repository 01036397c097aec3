/-
What the program writes to its log: lines, and records of the audit trail.

Both are events of one stream. `Entry.event` is the line that the filter and the layouts see. A readable line shows the
level, the target, the message and the fields one after another: a text that was given literally stands in quotes, a
rendered one as it is. A JSON line is an object with the message among the fields.
-/
import LineTerminal.Audit.Record
import LineTerminal.Text.Quoted

namespace LineTerminal.Log

inductive Entry where
  | line (l : Line)
  | audit (r : Audit.Record)

namespace Entry

def event : Entry → Line
  | line l => l
  | audit r => r.event

/-- the record of an entry of the audit trail -/
def record? : Entry → Option Audit.Record
  | line _ => none
  | audit r => some r

end Entry

/-- the audit records of a log, oldest first -/
def records (log : List Entry) : List Audit.Record := log.filterMap (·.record?)

@[simp] theorem records_nil : records [] = [] := rfl

@[simp] theorem records_line (l : Line) (log : List Entry) : records (.line l :: log) = records log := rfl

@[simp] theorem records_audit (r : Audit.Record) (log : List Entry) : records (.audit r :: log) = r :: records log := rfl

@[simp] theorem records_append (log more : List Entry) : records (log ++ more) = records log ++ records more :=
  List.filterMap_append

@[simp] theorem records_lines (lines : List Line) : records (lines.map .line) = [] := by
  induction lines with
  | nil => rfl
  | cons l lines ih => exact ih

/-! ## Layouts -/

def Value.readable : Value → String
  | .number n => toString n
  | .flag b => if b then "true" else "false"
  | .shown text => text
  | .literal text => Text.quoted text

def Value.json : Value → Json
  | .number n => .count n
  | .flag b => .bool b
  | .shown text => .text text
  | .literal text => .text text

/-- a readable line; what the values hold may break it -/
def Line.readable (l : Line) : String :=
  l.level.name ++ " " ++ l.target.path ++ ": " ++
    ", ".intercalate (l.message :: l.fields.map (fun f => f.1 ++ ": " ++ f.2.readable))

def Line.members (l : Line) : List (String × Json) :=
  [("level", .text l.level.name),
   ("fields", .ofMembers (("message", .text l.message) :: l.fields.map (fun f => (f.1, f.2.json)))),
   ("target", .text l.target.path)]

/-- an event as it is written, with its time -/
def Format.write (format : Format) (time : String) (e : Entry) : String :=
  match format with
  | .json => (Json.object (("timestamp", .text time) :: e.event.members)).render
  | .pretty => "  " ++ time ++ "  " ++ e.event.readable ++ "\n"

end LineTerminal.Log
