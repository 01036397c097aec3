/-
Enabling a line terminal.

`enable` brings the host side up, finds out how many PON ports there are and activates each of them in ascending order,
whatever became of the ones before. The number of ports is what the terminal reports; a terminal that is not connected
has the fallback number, and after any other failed read the settings decide between the fallback and giving up. What
fails before the ports leaves the device as it was; otherwise the verdict is committed once, after the last port.

Every driver call, log line and audit record is part of the result, in the order in which it happens. The time is taken to
stand still during an enable: the one reading `now` is the time of all its records and of the stamp of the device.
-/
import LineTerminal.Activation
import LineTerminal.Device
import LineTerminal.Driver
import LineTerminal.Log.Entry

namespace LineTerminal

open Log (Entry Line Level Value records)
open Audit (Record)
open Time (Timestamp)

/-- the managed device, the driver below it and the counters over its enables -/
structure Managed (σ : Type) where
  driver : σ
  device : Device
  counters : Counters

/-- a device that was never touched, over a driver -/
def Managed.fresh {σ : Type} (driver : σ) (deviceId : UInt32) : Managed σ :=
  ⟨driver, .fresh deviceId, .zero⟩

/-- the same device over a driver with a journal, in which nothing is noted yet -/
def Managed.journaled {σ : Type} (m : Managed σ) : Managed (Journaled σ) :=
  ⟨⟨m.driver, []⟩, m.device, m.counters⟩

/-- what a piece of work on the device leaves behind -/
structure Work (σ α : Type) where
  value : α
  managed : Managed σ
  log : List Entry

namespace Enable

variable {σ : Type}

structure Request where
  deviceId : UInt32
  context : Option RequestContext
  deriving DecidableEq, Repr

/-- the id that the audit records of a request carry -/
def Request.correlationId (r : Request) : Option String := requestIdOf r.context

def line (level : Level) (message : String) (fields : List (String × Value)) : Entry :=
  .line (.of level .enabling "OltOrch" message fields)

@[simp] theorem records_line (level : Level) (message : String) (fields : List (String × Value)) (log : List Entry) :
    records (line level message fields :: log) = records log := rfl

def word (n : UInt32) : Value := .number n.toNat

/-- a record about the requested device -/
def deviceRecord (now : Timestamp) (request : Request) (category : Audit.Category) (action : String) : Record :=
  (Record.start now category "OltOrch" action).changes
    [.objectId (toString request.deviceId.toNat), .objectType "olt", .correlationId request.correlationId]

def beginEntry (request : Request) : Entry := line .info "Enabling OLT" [("device_id", word request.deviceId)]

@[simp] theorem records_beginEntry (request : Request) (log : List Entry) :
    records (beginEntry request :: log) = records log := rfl

/-- logged when another device is meant -/
def unknownEntries (now : Timestamp) (request : Request) (e : EnableError) : List Entry :=
  [line .error "Rejecting enable" [("device_id", word request.deviceId), ("error", .shown e.message)],
   .audit ((deviceRecord now request .deviceActivation "enable").change (.error e.message))]

/-- logged when the host side does not come up -/
def hostInitEntries (now : Timestamp) (request : Request) (e : DriverError) : List Entry :=
  [line .error "BAL host init failed" [("device_id", word request.deviceId), ("error", .shown e.message)],
   .audit ((deviceRecord now request .balOperation "host_init").change (.error e.message))]

/-- the ports of an enable: how many, and how that is known -/
structure Found where
  count : UInt32
  discovery : Discovery
  deriving DecidableEq, Repr

/-- what follows from the answer of a configuration read -/
def discover (settings : EnableSettings) : Except DriverError OltInfo → Except EnableError Found
  | .ok info => .ok ⟨info.ponPorts, .configured⟩
  | .error e =>
    if e.isNotConnected then .ok ⟨settings.fallbackPonPorts, .notConnectedFallback⟩
    else match settings.policy with
      | .fallback => .ok ⟨settings.fallbackPonPorts, .errorFallback⟩
      | .fatal => .error (.configRead e)

def discoverEntries (settings : EnableSettings) (olt : OltId) : Except DriverError OltInfo → List Entry
  | .ok info => [line .debug "OLT configuration read" [("olt", .shown olt.text), ("pon_ports", word info.ponPorts)]]
  | .error e =>
    if e.isNotConnected then
      [line .info "OLT not connected, using fallback PON ports"
        [("olt", .shown olt.text), ("pon_ports", word settings.fallbackPonPorts)]]
    else match settings.policy with
      | .fallback =>
        [line .warn "OLT configuration read failed, using fallback PON ports"
          [("olt", .shown olt.text), ("error", .shown e.message), ("pon_ports", word settings.fallbackPonPorts)]]
      | .fatal =>
        [line .error "OLT configuration read failed" [("olt", .shown olt.text), ("error", .shown e.message)]]

@[simp] theorem records_discoverEntries (settings : EnableSettings) (olt : OltId)
    (answer : Except DriverError OltInfo) : records (discoverEntries settings olt answer) = [] := by
  unfold discoverEntries
  split
  · rfl
  · split
    · rfl
    · split <;> rfl

/-- the record of a read that made the enable fail -/
def readFailedRecord (now : Timestamp) (request : Request) (e : EnableError) : Record :=
  (deviceRecord now request .balOperation "cfg_get").change (.error e.message)

/-- the counters after the ports were found -/
def Found.counted (found : Found) (c : Counters) : Counters :=
  match found.discovery with
  | .configured => c
  | .notConnectedFallback | .errorFallback => c.countFallback

/-- the report on a port, from the answer of its activation -/
def portReport (pon : PonId) : Except DriverError Unit → PortReport
  | .ok () => .succeeded pon
  | .error e => .failed pon e.message

/-- the record of a port that did not come up -/
def portRecord (now : Timestamp) (request : Request) (olt : OltId) (pon : PonId) (e : DriverError) : Record :=
  (Record.start now .ponInterface "OltOrch" "activate_pon").changes
    [.objectId pon.text, .objectType "pon_interface", .correlationId request.correlationId,
     .details (.ofMembers [("olt", .word olt.raw), ("retryable", .bool e.isRetryable)]), .error e.message]

def portEntries (now : Timestamp) (request : Request) (olt : OltId) (pon : PonId) :
    Except DriverError Unit → List Entry
  | .ok () => [line .debug "PON port activated" [("pon_ni", word pon.raw)]]
  | .error e =>
    [line .warn "PON port activation failed"
      [("pon_ni", word pon.raw), ("error", .shown e.message), ("retryable", .flag e.isRetryable)],
     .audit (portRecord now request olt pon e)]

/-- activate one port after others -/
def activatePort (driver : Driver σ) (now : Timestamp) (request : Request) (olt : OltId)
    (w : Work σ (List PortReport)) (pon : PonId) : Work σ (List PortReport) :=
  let a := driver.submit olt (.activatePon pon) w.managed.driver
  let counters := match a.outcome with
    | .ok () => w.managed.counters
    | .error _ => w.managed.counters.countPortFailure
  { value := w.value ++ [portReport pon a.outcome]
    managed := { w.managed with driver := a.state, counters := counters }
    log := w.log ++ a.lines.map Entry.line ++ portEntries now request olt pon a.outcome }

/-- the interfaces `0, 1, …, n - 1` -/
def interfaces (n : UInt32) : List PonId := (List.range n.toNat).map (fun i => ⟨i.toUInt32⟩)

/-- activate every port, whatever became of the ones before it -/
def activatePorts (driver : Driver σ) (now : Timestamp) (request : Request) (olt : OltId) (count : UInt32)
    (m : Managed σ) : Work σ (List PortReport) :=
  (interfaces count).foldl (activatePort driver now request olt) ⟨[], m, []⟩

/-- the outcome of an enable that attempted its ports -/
def outcome (a : Activation) : Audit.Outcome :=
  if !a.isOk then .failure else if a.failed = 0 then .success else .partly

def verdictRecord (now : Timestamp) (request : Request) (found : Found) (a : Activation) (l : Lifecycle) : Record :=
  let details := Json.ofMembers
    [("discovery", .text found.discovery.name), ("pon_ports", .word found.count), ("succeeded", .count a.succeeded),
     ("failed", .count a.failed), ("lifecycle", .text l.name)]
  let last := match a.error with
    | some e => Audit.Change.error e.message
    | none => .outcome (outcome a)
  (deviceRecord now request .deviceActivation "enable").changes [.details details, last]

def verdictEntry (request : Request) (found : Found) (a : Activation) : Entry :=
  if a.isOk then
    line .info "OLT enabled"
      [("device_id", word request.deviceId), ("pon_ports", word found.count), ("failed", .number a.failed),
       ("discovery", .shown found.discovery.name)]
  else
    line .error "OLT enable failed"
      [("device_id", word request.deviceId), ("pon_ports", word found.count), ("error", .shown a.message)]

@[simp] theorem records_verdictEntry (request : Request) (found : Found) (a : Activation) (log : List Entry) :
    records (verdictEntry request found a :: log) = records log := by
  unfold verdictEntry
  split <;> rfl

/-- attempt the ports that were found and commit the verdict -/
def attempt (driver : Driver σ) (now : Timestamp) (request : Request) (found : Found) (m : Managed σ) :
    Work σ Activation :=
  let w := activatePorts driver now request m.device.olt found.count m
  let a := Activation.ofPorts w.value found.discovery
  let device := w.managed.device.commit now a.isOk found.count
  let counters := if a.isOk then w.managed.counters.countSuccess else w.managed.counters
  { value := a
    managed := { w.managed with device := device, counters := counters }
    log := w.log ++ [verdictEntry request found a, .audit (verdictRecord now request found a device.lifecycle)] }

/-- find the ports of the device, then attempt them -/
def discoverAndAttempt (driver : Driver σ) (settings : EnableSettings) (now : Timestamp) (request : Request)
    (m : Managed σ) : Work σ Activation :=
  let olt := m.device.olt
  let a := driver.readConfig olt m.driver
  let log := a.lines.map Entry.line ++ discoverEntries settings olt a.outcome
  match discover settings a.outcome with
  | .error e => ⟨.rejected e, { m with driver := a.state }, log ++ [.audit (readFailedRecord now request e)]⟩
  | .ok found =>
    let w := attempt driver now request found { m with driver := a.state, counters := found.counted m.counters }
    { w with log := log ++ w.log }

/-- bring the host side up, then find and attempt the ports -/
def bringUp (driver : Driver σ) (settings : EnableSettings) (now : Timestamp) (request : Request) (m : Managed σ) :
    Work σ Activation :=
  let a := driver.hostInit request.context m.driver
  let log := a.lines.map Entry.line
  match a.outcome with
  | .error e =>
    ⟨.rejected (.hostInit e), { m with driver := a.state, counters := m.counters.countHostInitFailure },
     log ++ hostInitEntries now request e⟩
  | .ok () =>
    let w := discoverAndAttempt driver settings now request { m with driver := a.state }
    { w with log := log ++ w.log }

end Enable

/-- enable the managed device; a request for another device is refused -/
def enable {σ : Type} (driver : Driver σ) (settings : EnableSettings) (now : Timestamp) (request : Enable.Request)
    (m : Managed σ) : Work σ Activation :=
  let m := { m with counters := m.counters.countAttempt }
  let begun := Enable.beginEntry request
  if request.deviceId = m.device.id then
    let w := Enable.bringUp driver settings now request m
    { w with log := begun :: w.log }
  else
    let e := EnableError.unknownDevice request.deviceId m.device.id
    ⟨.rejected e, m, begun :: Enable.unknownEntries now request e⟩

end LineTerminal
