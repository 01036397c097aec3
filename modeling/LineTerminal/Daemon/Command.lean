/-
What clients can ask of the daemon, and what it answers.
-/
import LineTerminal.Enable

namespace LineTerminal.Daemon

inductive Command where
  /-- enable a device -/
  | enable (request : Enable.Request)
  /-- read the state of the device -/
  | status
  /-- mark the device usable without touching the driver -/
  | activate
  /-- mark the device not usable -/
  | deactivate
  /-- stop after the commands ahead of this one -/
  | shutdown
  deriving DecidableEq, Repr

def Command.name : Command → String
  | .enable _ => "enable"
  | .status => "status"
  | .activate => "activate"
  | .deactivate => "deactivate"
  | .shutdown => "shutdown"

/-- the state of the device at one moment -/
structure Status where
  device : Device
  counters : Counters
  deriving DecidableEq, Repr

inductive Reply where
  | enabled (a : Activation)
  | status (s : Status)
  /-- the lifecycle after an override -/
  | lifecycle (l : Lifecycle)
  | stopped
  deriving DecidableEq, Repr

/-- why a request has no reply -/
inductive Refusal where
  /-- the daemon had stopped before the request was accepted -/
  | queueClosed
  /-- the daemon stopped before it came to the request -/
  | noReply
  deriving DecidableEq, Repr

def Refusal.message : Refusal → String
  | .queueClosed => "Agent daemon is not running"
  | .noReply => "Agent daemon dropped the request without replying"

end LineTerminal.Daemon
