/-
The configuration of the agent.

Every field has a standard value, so an empty configuration is a usable one. `encode` gives the configuration as a JSON
object and `decode` reads it from any data format: fields that are not given keep their standard values, a field that is
not known is refused. `validate` checks what the types do not: the first field in a fixed order that is out of its range
is named.
-/
import LineTerminal.Activation
import LineTerminal.Driver.Vendor
import LineTerminal.Json.Value
import LineTerminal.Log.Line
import LineTerminal.Schema
import LineTerminal.Text

namespace LineTerminal.Config

open Schema (Field Source)

structure Logging where
  /-- the filter of the log when the environment gives none -/
  level : String
  format : Log.Format
  deriving DecidableEq, Repr

structure Agent where
  /-- the id of the managed line terminal -/
  deviceId : UInt32
  /-- how many commands may wait for the daemon -/
  queueDepth : UInt64
  /-- enable the line terminal once at the start -/
  enableOnStartup : Bool
  enable : EnableSettings
  logging : Logging
  deriving DecidableEq, Repr

/-- messages from the level of information on, as JSON -/
def Logging.standard : Logging := ⟨"info", .json⟩

namespace Agent

/-- the first line terminal, enabled at the start -/
def standard : Agent := ⟨0, 16, true, .standard, .standard⟩

/-- a value that a field may not have -/
structure Invalid where
  field : String
  detail : String
  deriving DecidableEq, Repr

def Invalid.message (i : Invalid) : String := "Invalid configuration for " ++ i.field ++ ": " ++ i.detail

/-- check the ranges of the fields -/
def validate (c : Agent) : Except Invalid Unit :=
  if c.deviceId ≥ Vendor.maxOlts then
    .error ⟨"device_id", "must be below " ++ toString Vendor.maxOlts.toNat⟩
  else if c.enable.fallbackPonPorts < 1 ∨ Vendor.maxPonInterfaces < c.enable.fallbackPonPorts then
    .error ⟨"enable.fallback_pon_ports", "must be between 1 and " ++ toString Vendor.maxPonInterfaces.toNat⟩
  else if c.queueDepth = 0 then .error ⟨"command_queue_depth", "must be at least 1"⟩
  else if Text.isBlankText c.logging.level then .error ⟨"logging.level", "must not be empty"⟩
  else .ok ()

theorem validate_eq_ok_iff (c : Agent) : c.validate = .ok () ↔
    c.deviceId < Vendor.maxOlts
      ∧ (1 ≤ c.enable.fallbackPonPorts ∧ c.enable.fallbackPonPorts ≤ Vendor.maxPonInterfaces)
      ∧ c.queueDepth ≠ 0 ∧ Text.isBlankText c.logging.level = false := by
  unfold validate
  split
  · rename_i hid
    exact ⟨nofun, fun h => absurd h.1 (UInt32.not_lt.2 hid)⟩
  · rename_i hid
    split
    · rename_i hports
      refine ⟨nofun, fun h => ?_⟩
      rcases hports with hports | hports
      · exact absurd h.2.1.1 (UInt32.not_le.2 hports)
      · exact absurd h.2.1.2 (UInt32.not_le.2 hports)
    · rename_i hports
      rw [not_or, UInt32.not_lt, UInt32.not_lt] at hports
      split
      · rename_i hdepth
        exact ⟨nofun, fun h => absurd hdepth h.2.2.1⟩
      · rename_i hdepth
        split
        · rename_i hlevel
          exact ⟨nofun, fun h => nomatch hlevel.symm.trans h.2.2.2⟩
        · rename_i hlevel
          exact ⟨fun _ => ⟨UInt32.not_le.1 hid, hports, hdepth, Bool.eq_false_iff.2 hlevel⟩, fun _ => rfl⟩

end Agent

/-! ## as a JSON object -/

def encodeEnable (s : EnableSettings) : Json :=
  .ofMembers [("fallback_pon_ports", .word s.fallbackPonPorts), ("config_error_policy", .text s.policy.name)]

def encodeLogging (l : Logging) : Json :=
  .ofMembers [("level", .text l.level), ("format", .text l.format.name)]

def encode (c : Agent) : Json :=
  .ofMembers [("device_id", .word c.deviceId), ("command_queue_depth", .natural c.queueDepth),
    ("enable_on_startup", .bool c.enableOnStartup), ("enable", encodeEnable c.enable),
    ("logging", encodeLogging c.logging)]

/-! ## from a data format -/

def policies : List (String × ErrorPolicy) := Schema.named ErrorPolicy.name ErrorPolicy.all

def formats : List (String × Log.Format) := Schema.named Log.Format.name Log.Format.all

variable {ν ε : Type}

def enableFields (s : Source ν ε) : List (Field ν ε EnableSettings) :=
  [⟨"fallback_pon_ports", fun v e => (s.word v).map (fun n => { e with fallbackPonPorts := n })⟩,
   ⟨"config_error_policy", fun v e => (s.choice policies v).map (fun p => { e with policy := p })⟩]

def decodeEnable (s : Source ν ε) (v : ν) : Except ε EnableSettings :=
  s.record "OltOrchConfig" (enableFields s) .standard v

def loggingFields (s : Source ν ε) : List (Field ν ε Logging) :=
  [⟨"level", fun v l => (s.text v).map (fun t => { l with level := t })⟩,
   ⟨"format", fun v l => (s.choice formats v).map (fun f => { l with format := f })⟩]

def decodeLogging (s : Source ν ε) (v : ν) : Except ε Logging :=
  s.record "LoggingConfig" (loggingFields s) .standard v

def agentFields (s : Source ν ε) : List (Field ν ε Agent) :=
  [⟨"device_id", fun v c => (s.word v).map (fun n => { c with deviceId := n })⟩,
   ⟨"command_queue_depth", fun v c => (s.size v).map (fun n => { c with queueDepth := n })⟩,
   ⟨"enable_on_startup", fun v c => (s.flag v).map (fun b => { c with enableOnStartup := b })⟩,
   ⟨"enable", fun v c => (decodeEnable s v).map (fun e => { c with enable := e })⟩,
   ⟨"logging", fun v c => (decodeLogging s v).map (fun l => { c with logging := l })⟩]

def decode (s : Source ν ε) (v : ν) : Except ε Agent := s.record "AgentConfig" (agentFields s) .standard v

end LineTerminal.Config
