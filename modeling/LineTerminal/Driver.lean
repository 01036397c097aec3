/-
The driver of a line terminal, as the rest of the program sees it.

A driver is a state machine with three calls: bring the host side up, read the configuration of a terminal, submit an
operation. Nothing is assumed about its state, so an answer may depend on every call before it. `Driver.journaled` adds
a journal of the calls to any driver and changes none of its answers.

A driver never reads the context of a call: it exists so that driver activity and audit records can be matched with the
management request that caused them.
-/
import LineTerminal.DriverError
import LineTerminal.Log.Line
import LineTerminal.Olt

namespace LineTerminal

/-- the origin of a call -/
structure RequestContext where
  /-- the management request, if it has an id -/
  requestId : Option String
  /-- who sent the request -/
  peer : Option String
  deriving DecidableEq, Repr

/-- a context that tells nothing -/
def RequestContext.unknown : RequestContext := ⟨none, none⟩

/-- the request id of a context that may be missing -/
def requestIdOf (ctx : Option RequestContext) : Option String := ctx.bind (·.requestId)

/-- what a driver call leaves behind -/
structure Answer (σ α : Type) where
  outcome : Except DriverError α
  state : σ
  /-- what the call logged -/
  lines : List Log.Line

/-- the three calls of a driver with state `σ` -/
structure Driver (σ : Type) where
  /-- bring the host side up -/
  hostInit : Option RequestContext → σ → Answer σ Unit
  /-- read what a terminal reports about itself -/
  readConfig : OltId → σ → Answer σ OltInfo
  /-- have a terminal do something -/
  submit : OltId → Operation → σ → Answer σ Unit

/-- a call as it is noted in a journal -/
inductive Call where
  | hostInit (requestId : Option String)
  | readConfig (olt : OltId)
  | submit (olt : OltId) (operation : Operation)
  deriving DecidableEq, Repr

namespace Call

def isHostInit : Call → Bool
  | hostInit _ => true
  | _ => false

def isReadConfig : Call → Bool
  | readConfig _ => true
  | _ => false

def isSubmit : Call → Bool
  | submit _ _ => true
  | _ => false

/-- the interface a call is about, if it submits an operation -/
def target? : Call → Option PonId
  | submit _ operation => some operation.target
  | _ => none

end Call

/-- a state together with the calls that led to it, oldest first -/
structure Journaled (σ : Type) where
  state : σ
  calls : List Call

namespace Driver

variable {σ α : Type}

def note (seen : List Call) (call : Call) (a : Answer σ α) : Answer (Journaled σ) α :=
  ⟨a.outcome, ⟨a.state, seen ++ [call]⟩, a.lines⟩

/-- the same driver with a journal of its calls -/
def journaled (d : Driver σ) : Driver (Journaled σ) where
  hostInit ctx s := note s.calls (.hostInit (requestIdOf ctx)) (d.hostInit ctx s.state)
  readConfig olt s := note s.calls (.readConfig olt) (d.readConfig olt s.state)
  submit olt operation s := note s.calls (.submit olt operation) (d.submit olt operation s.state)

end Driver

end LineTerminal
