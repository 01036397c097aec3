/-
The part of the daemon that carries out commands, one at a time.

`serve` carries out one command. Whether the requester still waits decides only how the reply is logged: the command takes
effect in either case. `performAll` carries out commands one after another, with nobody else around: it is what a daemon
with clients is compared with.
-/
import LineTerminal.Daemon.Command

namespace LineTerminal.Daemon

open Log (Entry Line Level Value)
open Audit (Record)
open Time (Timestamp)

/-- what does not change while a daemon runs -/
structure Setup (σ : Type) where
  driver : Driver σ
  settings : EnableSettings
  /-- the id of the managed device -/
  deviceId : UInt32
  /-- how many commands may be queued -/
  depth : UInt64
  /-- the time of the n-th piece of work. The clock is taken to stand still while it is done: one reading serves all its
  records and the stamp of the device, each of which could as well have a reading of its own -/
  clock : Nat → Timestamp

variable {σ : Type}

/-- the same daemon over a driver with a journal of its calls -/
def Setup.journaled (s : Setup σ) : Setup (Journaled σ) :=
  ⟨s.driver.journaled, s.settings, s.deviceId, s.depth, s.clock⟩

def line (level : Level) (message : String) (fields : List (String × Value)) : Entry :=
  .line (.of level .daemon "AgentDaemon" message fields)

def idField (s : Setup σ) : String × Value := ("device_id", .number s.deviceId.toNat)

def lifecycleField (m : Managed σ) : String × Value := ("lifecycle", .shown m.device.lifecycle.name)

/-- a record of a success of the daemon -/
def record (s : Setup σ) (now : Timestamp) (category : Audit.Category) (action : String)
    (details : List (String × Json)) : Record :=
  (Record.start now category "AgentDaemon" action).changes
    [.outcome .success, .objectId (toString s.deviceId.toNat), .objectType "olt", .details (.ofMembers details)]

def startEntries (s : Setup σ) (now : Timestamp) : List Entry :=
  [line .info "Starting agent daemon" [idField s, ("queue_depth", .number s.depth.toNat)],
   .audit (record s now .systemLifecycle "daemon_started" [("command_queue_depth", .natural s.depth)])]

def stopEntries (s : Setup σ) (now : Timestamp) (m : Managed σ) : List Entry :=
  [line .info "Agent daemon stopped" [idField s, lifecycleField m],
   .audit (record s now .systemLifecycle "daemon_stopped" [("lifecycle", .text m.device.lifecycle.name)])]

/-- logged when the lifecycle was set by hand -/
def overrideEntries (s : Setup σ) (now : Timestamp) (action : String) (m : Managed σ) : List Entry :=
  [line .info ("Lifecycle override: " ++ action) [idField s, lifecycleField m],
   .audit (record s now .adminAction action [("lifecycle", .text m.device.lifecycle.name)])]

/-- logged when a reply was given, or could not be given because the requester had left -/
def replyEntry (command : Command) (present : Bool) : Entry :=
  if present then line .debug "Command handled" [("command", .literal command.name)]
  else line .warn "Requester went away before the reply" [("command", .literal command.name)]

/-- carry out a command, without the line about its reply -/
def perform (s : Setup σ) (now : Timestamp) (command : Command) (m : Managed σ) : Work σ Reply :=
  match command with
  | .enable request =>
    let w := LineTerminal.enable s.driver s.settings now request m
    ⟨.enabled w.value, w.managed, w.log⟩
  | .status => ⟨.status ⟨m.device, m.counters⟩, m, []⟩
  | .activate =>
    let m := { m with device := m.device.activate now }
    ⟨.lifecycle m.device.lifecycle, m, overrideEntries s now "activate" m⟩
  | .deactivate =>
    let m := { m with device := m.device.deactivate now }
    ⟨.lifecycle m.device.lifecycle, m, overrideEntries s now "deactivate" m⟩
  | .shutdown => ⟨.stopped, m, [line .info "Shutdown requested" []]⟩

/-- carry out commands one after another; the first of them is the `n`-th piece of work -/
def performAll (s : Setup σ) : Nat → List Command → Managed σ → Work σ (List Reply)
  | _, [], m => ⟨[], m, []⟩
  | n, command :: rest, m =>
    let w := perform s (s.clock n) command m
    let r := performAll s (n + 1) rest w.managed
    ⟨w.value :: r.value, r.managed, w.log ++ r.log⟩

theorem length_performAll_value (s : Setup σ) (n : Nat) (commands : List Command) (m : Managed σ) :
    (performAll s n commands m).value.length = commands.length := by
  induction commands generalizing n m with
  | nil => rfl
  | cons command commands ih => simp only [performAll, List.length_cons, ih]

theorem performAll_append (s : Setup σ) (n : Nat) (before after : List Command) (m : Managed σ) :
    performAll s n (before ++ after) m =
      let w := performAll s n before m
      let r := performAll s (n + before.length) after w.managed
      ⟨w.value ++ r.value, r.managed, w.log ++ r.log⟩ := by
  induction before generalizing n m with
  | nil => rfl
  | cons command before ih =>
    have hn : n + 1 + before.length = n + (command :: before).length := by rw [List.length_cons]; omega
    simp only [List.cons_append, performAll, ih, hn, List.append_assoc]

def Command.stops : Command → Bool
  | .shutdown => true
  | _ => false

/-- carry out a command for a requester that is still there or not -/
def serve (s : Setup σ) (now : Timestamp) (command : Command) (present : Bool) (m : Managed σ) : Work σ Reply :=
  let w := perform s now command m
  { w with log := w.log ++ [replyEntry command present] }

end LineTerminal.Daemon
