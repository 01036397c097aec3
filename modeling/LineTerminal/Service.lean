/-
A whole run of the program with a configuration.

The program starts its daemon, enables the line terminal once if that is configured, serves until it is interrupted, then
stops the daemon through its queue. The verdict of the enable at the start is logged and does not end the run. A run ends
with a failure when the configuration is refused, when no queue of the configured depth can be made, when the enable at the
start gets no reply, or when the daemon is lost. An interrupt that cannot be waited for and a shutdown that gets no reply
are logged, and the run goes on.

`launch` is the run up to the point where it serves, `Service.stop` is the rest of it. What the interrupt is like is part
of the `Surroundings`; it is taken once the enable at the start has been answered, and not before.
-/
import LineTerminal.Config.Load
import LineTerminal.Daemon.Session

namespace LineTerminal

open Log (Entry Level Value)
open Time (Timestamp)
open Daemon (Setup Session Command Ticket Refusal)

/-- how a run ended -/
inductive Ending where
  | finished
  /-- the configuration was refused -/
  | refused
  /-- the command line was refused -/
  | misused
  /-- no queue of the configured depth can be made -/
  | aborted
  /-- the enable at the start got no reply -/
  | unavailable
  /-- the daemon was lost -/
  | failed
  deriving DecidableEq, Repr

def Ending.code : Ending → Nat
  | finished => 0
  | refused | unavailable | failed => 1
  | misused => 2
  | aborted => 101

namespace Service

variable {σ : Type}

def line (level : Level) (message : String) (fields : List (String × Value)) : Entry :=
  .line (.of level .main "main" message fields)

def idField (id : UInt32) : String × Value := ("device_id", .number id.toNat)

/-- how a policy is shown in the log -/
def policyShown : ErrorPolicy → String
  | .fallback => "Fallback"
  | .fatal => "Fatal"

def refusedEntry (e : Config.LoadError) : Entry :=
  line .error "Failed to load configuration" [("error", .shown e.message)]

def loadedRecord (now : Timestamp) (file : Option String) (c : Config.Agent) : Audit.Record :=
  (Audit.Record.start now .configurationChange "main" "config_loaded").changes
    [.outcome .success, .objectId (toString c.deviceId.toNat), .objectType "olt",
     .details (.ofMembers [("config_file", .optional file), ("enable", Config.encodeEnable c.enable),
       ("command_queue_depth", .natural c.queueDepth), ("enable_on_startup", .bool c.enableOnStartup)])]

def openingEntries (now : Timestamp) (file : Option String) (c : Config.Agent) : List Entry :=
  [line .info "Starting OpenOLT agent"
     [idField c.deviceId, ("fallback_pon_ports", .number c.enable.fallbackPonPorts.toNat),
      ("config_error_policy", .shown (policyShown c.enable.policy)),
      ("config_file", .shown (Text.optional Text.quotedPath file))],
   .audit (loadedRecord now file c)]

/-- logged when the enable at the start has been answered -/
def enabledEntry (deviceId : UInt32) (a : Activation) : Entry :=
  if a.isOk then
    line .info "OLT enabled at startup"
      [idField deviceId, ("pon_ports", .number a.ports.length), ("failed", .number a.failed)]
  else
    line .warn "OLT enable at startup failed, agent keeps running" [idField deviceId, ("error", .shown a.message)]

/-- logged when the enable at the start got no reply -/
def unavailableEntry (r : Refusal) : Entry := line .error "Agent daemon unavailable" [("error", .shown r.message)]

/-- logged when the program is interrupted, or cannot wait for that -/
def interruptEntry : Except String Unit → Entry
  | .ok () => line .warn "Received SIGINT, shutting down gracefully..." []
  | .error reason => line .error "Failed to listen for ctrl-c" [("error", .shown reason)]

/-- logged when the shutdown got no reply -/
def unansweredEntry (r : Refusal) : Entry := line .warn "Agent daemon already stopped" [("error", .shown r.message)]

def completeEntry (d : Device) : Entry :=
  line .info "OpenOLT agent shutdown complete" [idField d.id, ("lifecycle", .shown d.lifecycle.name)]

def lostEntry (reason : String) : Entry := line .error "Agent daemon task failed" [("error", .shown reason)]

/-- the daemon of a configuration -/
def setup (driver : Driver σ) (clock : Nat → Timestamp) (c : Config.Agent) : Setup σ :=
  ⟨driver, c.enable, c.deviceId, c.queueDepth, clock⟩

def startupTicket (c : Config.Agent) : Ticket :=
  ⟨0, .enable ⟨c.deviceId, some ⟨some "startup", some "openolt-agent"⟩⟩, true⟩

def shutdownTicket : Ticket := ⟨1, .shutdown, true⟩

/-- a daemon after the enable at the start, if that is configured -/
def begin (s : Setup σ) (c : Config.Agent) (start : σ) : Session σ :=
  let x := Session.start s start
  if c.enableOnStartup then x.ask s [startupTicket c] else x

/-- what became of the enable at the start: its result if there is one, or why there is no reply -/
def startupVerdict (x : Session σ) : Except Refusal (Option Activation) :=
  match x.reply? 0 with
  | some (.ok (.enabled a)) => .ok (some a)
  | some (.error refusal) => .error refusal
  | _ => .ok none

/-- a run that serves -/
structure Running (σ : Type) where
  config : Config.Agent
  session : Session σ
  /-- the log so far -/
  log : List Entry

/-- run up to the point where the program serves; if it does not come to that, the log tells why -/
def launch (driver : Driver σ) (clock : Nat → Timestamp) (file : Option String) (c : Config.Agent) (start : σ) :
    Except (Ending × List Entry) (Running σ) :=
  let s := setup driver clock c
  let opening := openingEntries (clock 0) file c
  if !s.fits then .error (.aborted, opening)
  else
    let x := begin s c start
    let log := opening ++ x.log
    match startupVerdict x with
    | .error refusal => .error (.unavailable, log ++ [unavailableEntry refusal])
    | .ok verdict => .ok ⟨c, x, log ++ verdict.toList.map (enabledEntry c.deviceId)⟩

/-- what a run meets while it serves, and after that -/
structure Surroundings where
  /-- the interrupt, or why it cannot be waited for -/
  interrupt : Except String Unit
  /-- why the daemon is lost, if it does not come to its end -/
  loss : String

/-- a run that serves no longer -/
structure Stopped (σ : Type) where
  ending : Ending
  session : Session σ
  /-- the log of the whole run -/
  log : List Entry

/-- logged about the reply to the shutdown -/
def shutdownEntries (x : Session σ) : List Entry :=
  match x.reply? 1 with
  | some (.error refusal) => [unansweredEntry refusal]
  | _ => []

/-- the program is interrupted: the daemon is shut down through its queue, and its end is waited for -/
def stop (driver : Driver σ) (clock : Nat → Timestamp) (around : Surroundings) (r : Running σ) : Stopped σ :=
  let x := r.session.ask (setup driver clock r.config) [shutdownTicket]
  let log := r.log ++ interruptEntry around.interrupt :: x.log.drop r.session.log.length ++ shutdownEntries x
  if x.phase = .gone then ⟨.finished, x, log ++ [completeEntry x.managed.device]⟩
  else ⟨.failed, x, log ++ [lostEntry around.loss]⟩

structure Report (σ : Type) where
  ending : Ending
  /-- did the program come to serve -/
  served : Bool
  log : List Entry
  /-- the daemon at the end, if there was one -/
  session : Option (Session σ)

/-- a whole run with a configuration that may have been refused -/
def run (driver : Driver σ) (clock : Nat → Timestamp) (around : Surroundings) (file : Option String)
    (config : Except Config.LoadError Config.Agent) (start : σ) : Report σ :=
  match config with
  | .error e => ⟨.refused, false, [refusedEntry e], none⟩
  | .ok c =>
    match launch driver clock file c start with
    | .error (ending, log) => ⟨ending, false, log, none⟩
    | .ok r =>
      let e := stop driver clock around r
      ⟨e.ending, true, e.log, some e.session⟩

/-- how a run is logged: the layout, and the level of the filter when the environment gives none -/
def loggingOf (flags : Cli.Flags) : Except Config.LoadError Config.Agent → Config.Logging
  | .ok c => c.logging
  | .error _ =>
    ⟨flags.logLevel.getD Config.Logging.standard.level, flags.logFormat.getD Config.Logging.standard.format⟩

end Service

end LineTerminal
