/-
Two runs side by side, drivers that answer alike, and a journal that changes nothing.

A `Bond` says what two runs have to do with each other: the contexts of their requests, and their drivers, devices and
counters. It is asked of the single steps that they keep it (`Bond.Kept`).
- `enable_joins`: then two enables keep it, have one value and leave the same records, apart from the time and the request
  that each record carries;
- `perform_joins`, `performAll_joins`: so it is with commands, whose replies also tell the devices and the counters.

Two drivers are `Alike` under a relation of their states when related states give the same outcome and related states
again. Nothing is asked of the lines they log. With one device and the same counters beside them, that is a bond.
- `enable_alike`, `perform_alike`, `performAll_alike`: over such drivers an enable, a command and a whole sequence of
  commands give the same value, the same device and the same counters.
- `performAll_journaled`: a journal of the calls changes none of that.
- `perform_calls`: what a command adds to a journal does not depend on what is noted there already.
-/
import Mathlib.Data.List.Forall2
import Mathlib.Tactic.Common
import LineTerminal.Daemon.Server

namespace LineTerminal

open Log (records)

variable {σ τ α : Type}

/-- two answers with one outcome -/
structure Answer.Alike (R : σ → τ → Prop) (a : Answer σ α) (b : Answer τ α) : Prop where
  outcome : a.outcome = b.outcome
  state : R a.state b.state

/-- two drivers whose related states give like answers -/
structure Driver.Alike (R : σ → τ → Prop) (d : Driver σ) (e : Driver τ) : Prop where
  hostInit : ∀ ctx s t, R s t → (d.hostInit ctx s).Alike R (e.hostInit ctx t)
  readConfig : ∀ olt s t, R s t → (d.readConfig olt s).Alike R (e.readConfig olt t)
  submit : ∀ olt operation s t, R s t → (d.submit olt operation s).Alike R (e.submit olt operation t)

/-- one device over two drivers -/
structure Managed.Alike (R : σ → τ → Prop) (m : Managed σ) (n : Managed τ) : Prop where
  driver : R m.driver n.driver
  device : m.device = n.device
  counters : m.counters = n.counters

/-- two pieces of work with one value -/
structure Work.Alike (R : σ → τ → Prop) (v : Work σ α) (w : Work τ α) : Prop where
  value : v.value = w.value
  managed : v.managed.Alike R w.managed

/-! ## Apart from the clock -/

/-- a device apart from the clock: only whether its lifecycle has changed is told, not when -/
def Device.timeless (d : Device) : Device := { d with lastTransition := d.lastTransition.map fun _ => .epoch }

theorem Device.timeless_setLifecycle {x y : Device} (h : x.timeless = y.timeless) (now now' : Time.Timestamp)
    (l : Lifecycle) : (x.setLifecycle now l).timeless = (y.setLifecycle now' l).timeless := by
  have id : x.id = y.id := congrArg (·.id) h
  have lifecycle : x.lifecycle = y.lifecycle := congrArg (·.lifecycle) h
  have ponPorts : x.ponPorts = y.ponPorts := congrArg (·.ponPorts) h
  unfold setLifecycle
  rw [lifecycle]
  split
  · exact h
  · simp only [timeless, id, ponPorts, Option.map_some]

theorem Device.timeless_commit {x y : Device} (h : x.timeless = y.timeless) (now now' : Time.Timestamp) (usable : Bool)
    (ponPorts : UInt32) : (x.commit now usable ponPorts).timeless = (y.commit now' usable ponPorts).timeless := by
  refine timeless_setLifecycle ?_ now now' _
  exact congrArg (fun d : Device => { d with ponPorts := some ponPorts }) h

/-! ## Two enables side by side -/

/-- the time and the request that a record carries -/
structure Audit.Stamp where
  now : Time.Timestamp
  correlationId : Option String

/-- a record with a stamp of its own -/
def Audit.Record.stamped (r : Record) (stamp : Stamp) : Record :=
  { r with timestamp := stamp.now, correlationId := stamp.correlationId }

/-- two records that are the same apart from the stamps that they carry -/
inductive Audit.Twins (first second : Stamp) : Record → Record → Prop where
  | of (r : Record) : Twins first second (r.stamped first) (r.stamped second)

/-- the ways in which counters change -/
def Counters.events : List (Counters → Counters) :=
  [countAttempt, countSuccess, countHostInitFailure, countFallback, countPortFailure]

/-- what two runs have to do with each other: the contexts of their requests, their drivers, devices and counters -/
structure Bond (σ τ : Type) where
  context : Option RequestContext → Option RequestContext → Prop
  driver : σ → τ → Prop
  device : Device → Device → Prop
  counters : Counters → Counters → Prop

namespace Bond

/-- two managed devices under a bond -/
structure Holds (b : Bond σ τ) (m : Managed σ) (n : Managed τ) : Prop where
  driver : b.driver m.driver n.driver
  device : b.device m.device n.device
  counters : b.counters m.counters n.counters

/-- two pieces of work with values of one kind, the same records apart from their stamps, and devices under a bond -/
structure Joins (b : Bond σ τ) (kind : α → α → Prop) (first second : Audit.Stamp) (v : Work σ α) (w : Work τ α) :
    Prop where
  value : kind v.value w.value
  managed : b.Holds v.managed w.managed
  records : List.Forall₂ (Audit.Twins first second) (records v.log) (records w.log)

/-- a bond that single steps keep, those of one run at `now` and those of the other at `now'` -/
structure Kept (b : Bond σ τ) (d : Driver σ) (e : Driver τ) (now now' : Time.Timestamp) : Prop where
  hostInit : ∀ ctx ctx' s t, b.context ctx ctx' → b.driver s t → (d.hostInit ctx s).Alike b.driver (e.hostInit ctx' t)
  readConfig : ∀ olt s t, b.driver s t → (d.readConfig olt s).Alike b.driver (e.readConfig olt t)
  submit : ∀ olt operation s t, b.driver s t → (d.submit olt operation s).Alike b.driver (e.submit olt operation t)
  id : ∀ x y, b.device x y → x.id = y.id
  commit : ∀ usable ponPorts x y, b.device x y →
    b.device (x.commit now usable ponPorts) (y.commit now' usable ponPorts)
  override : ∀ l x y, b.device x y → b.device (x.setLifecycle now l) (y.setLifecycle now' l)
  count : ∀ event ∈ Counters.events, ∀ c c', b.counters c c' → b.counters (event c) (event c')

theorem Kept.olt {b : Bond σ τ} {d : Driver σ} {e : Driver τ} {now now' : Time.Timestamp} (h : b.Kept d e now now')
    {x y : Device} (hxy : b.device x y) : x.olt = y.olt := by
  rw [Device.olt, h.id x y hxy, Device.olt]

end Bond

namespace Enable

variable {b : Bond σ τ} {d : Driver σ} {e : Driver τ} {now now' : Time.Timestamp} {m : Managed σ} {n : Managed τ}
variable (id : UInt32) (ctx ctx' : Option RequestContext)

theorem twins_portEntries (olt : OltId) (pon : PonId) (answer : Except DriverError Unit) :
    List.Forall₂ (Audit.Twins ⟨now, requestIdOf ctx⟩ ⟨now', requestIdOf ctx'⟩)
      (records (portEntries now ⟨id, ctx⟩ olt pon answer)) (records (portEntries now' ⟨id, ctx'⟩ olt pon answer)) := by
  cases answer with
  | ok u => exact .nil
  | error cause => exact .cons (.of (portRecord now ⟨id, ctx⟩ olt pon cause)) .nil

theorem twins_verdictRecord (found : Found) (a : Activation) (l : Lifecycle) :
    Audit.Twins ⟨now, requestIdOf ctx⟩ ⟨now', requestIdOf ctx'⟩
      (verdictRecord now ⟨id, ctx⟩ found a l) (verdictRecord now' ⟨id, ctx'⟩ found a l) := by
  let r := verdictRecord now ⟨id, ctx⟩ found a l
  have first : r = r.stamped ⟨now, requestIdOf ctx⟩ := by
    simp only [r, verdictRecord]
    cases a.error <;> rfl
  have second : verdictRecord now' ⟨id, ctx'⟩ found a l = r.stamped ⟨now', requestIdOf ctx'⟩ := by
    simp only [r, verdictRecord]
    cases a.error <;> rfl
  have twins : Audit.Twins _ _ (r.stamped ⟨now, requestIdOf ctx⟩) (r.stamped ⟨now', requestIdOf ctx'⟩) := .of r
  rw [← first, ← second] at twins
  exact twins

theorem activatePort_joins (h : b.Kept d e now now') (olt : OltId) (pon : PonId) {v : Work σ (List PortReport)}
    {w : Work τ (List PortReport)} (hv : b.Joins Eq ⟨now, requestIdOf ctx⟩ ⟨now', requestIdOf ctx'⟩ v w) :
    b.Joins Eq ⟨now, requestIdOf ctx⟩ ⟨now', requestIdOf ctx'⟩ (activatePort d now ⟨id, ctx⟩ olt v pon)
      (activatePort e now' ⟨id, ctx'⟩ olt w pon) := by
  obtain ⟨value, ⟨driver, device, counters⟩, twins⟩ := hv
  obtain ⟨ho, hs⟩ := h.submit olt (.activatePon pon) _ _ driver
  refine ⟨?_, ⟨hs, device, ?_⟩, ?_⟩
  · simp only [activatePort, value, ho]
  · simp only [activatePort, ho]
    split
    · exact counters
    · exact h.count _ (by simp [Counters.events]) _ _ counters
  · simp only [activatePort, ho, Log.records_append, Log.records_lines, List.append_nil]
    exact List.rel_append twins (twins_portEntries id ctx ctx' olt pon _)

theorem foldl_activatePort_joins (h : b.Kept d e now now') (olt : OltId) (pons : List PonId)
    {v : Work σ (List PortReport)} {w : Work τ (List PortReport)}
    (hv : b.Joins Eq ⟨now, requestIdOf ctx⟩ ⟨now', requestIdOf ctx'⟩ v w) :
    b.Joins Eq ⟨now, requestIdOf ctx⟩ ⟨now', requestIdOf ctx'⟩ (pons.foldl (activatePort d now ⟨id, ctx⟩ olt) v)
      (pons.foldl (activatePort e now' ⟨id, ctx'⟩ olt) w) := by
  induction pons generalizing v w with
  | nil => exact hv
  | cons pon pons ih => exact ih (activatePort_joins id ctx ctx' h olt pon hv)

theorem attempt_joins (h : b.Kept d e now now') (found : Found) (hm : b.Holds m n) :
    b.Joins Eq ⟨now, requestIdOf ctx⟩ ⟨now', requestIdOf ctx'⟩ (attempt d now ⟨id, ctx⟩ found m)
      (attempt e now' ⟨id, ctx'⟩ found n) := by
  have olt := h.olt hm.device
  obtain ⟨value, ⟨driver, device, counters⟩, twins⟩ := foldl_activatePort_joins id ctx ctx' h n.device.olt
    (interfaces found.count) (v := ⟨[], m, []⟩) (w := ⟨[], n, []⟩) ⟨rfl, hm, .nil⟩
  unfold attempt activatePorts
  rw [olt]
  refine ⟨?_, ⟨driver, ?_, ?_⟩, ?_⟩
  · exact congrArg (Activation.ofPorts · found.discovery) value
  · simp only [value]
    exact h.commit _ _ _ _ device
  · simp only [value]
    split
    · exact h.count _ (by simp [Counters.events]) _ _ counters
    · exact counters
  · -- the lifecycle in the record is the one just committed
    simp only [value, Log.records_append, records_verdictEntry, Log.records_audit, Log.records_nil, Device.commit,
      Device.setLifecycle_lifecycle]
    exact List.rel_append twins (.cons (twins_verdictRecord id ctx ctx' found _ _) .nil)

theorem discoverAndAttempt_joins (h : b.Kept d e now now') (settings : EnableSettings) (hm : b.Holds m n) :
    b.Joins Eq ⟨now, requestIdOf ctx⟩ ⟨now', requestIdOf ctx'⟩ (discoverAndAttempt d settings now ⟨id, ctx⟩ m)
      (discoverAndAttempt e settings now' ⟨id, ctx'⟩ n) := by
  obtain ⟨driver, device, counters⟩ := hm
  have olt := h.olt device
  obtain ⟨ho, hs⟩ := h.readConfig n.device.olt _ _ driver
  simp only [discoverAndAttempt, olt, ho]
  split
  · rename_i cause _
    refine ⟨rfl, ⟨hs, device, counters⟩, ?_⟩
    simp only [Log.records_append, Log.records_lines, records_discoverEntries, List.nil_append]
    exact .cons (.of (readFailedRecord now ⟨id, ctx⟩ cause)) .nil
  · rename_i found _
    have counted : b.counters (found.counted m.counters) (found.counted n.counters) := by
      unfold Found.counted
      split
      · exact counters
      · exact h.count _ (by simp [Counters.events]) _ _ counters
      · exact h.count _ (by simp [Counters.events]) _ _ counters
    obtain ⟨value, managed, twins⟩ := attempt_joins id ctx ctx' h found
      (m := ⟨_, m.device, found.counted m.counters⟩) (n := ⟨_, n.device, found.counted n.counters⟩) ⟨hs, device, counted⟩
    refine ⟨value, managed, ?_⟩
    simp only [Log.records_append, Log.records_lines, records_discoverEntries, List.nil_append]
    exact twins

theorem bringUp_joins (h : b.Kept d e now now') (settings : EnableSettings) (context : b.context ctx ctx')
    (hm : b.Holds m n) :
    b.Joins Eq ⟨now, requestIdOf ctx⟩ ⟨now', requestIdOf ctx'⟩ (bringUp d settings now ⟨id, ctx⟩ m)
      (bringUp e settings now' ⟨id, ctx'⟩ n) := by
  obtain ⟨driver, device, counters⟩ := hm
  obtain ⟨ho, hs⟩ := h.hostInit _ _ _ _ context driver
  simp only [bringUp, ho]
  split
  · rename_i cause _
    refine ⟨rfl, ⟨hs, device, h.count .countHostInitFailure (by simp [Counters.events]) _ _ counters⟩, ?_⟩
    simp only [Log.records_append, Log.records_lines, List.nil_append]
    exact .cons (.of ((deviceRecord now ⟨id, ctx⟩ .balOperation "host_init").change (.error cause.message))) .nil
  · obtain ⟨value, managed, twins⟩ := discoverAndAttempt_joins id ctx ctx' h settings
      (m := ⟨_, m.device, m.counters⟩) (n := ⟨_, n.device, n.counters⟩) ⟨hs, device, counters⟩
    refine ⟨value, managed, ?_⟩
    simp only [Log.records_append, Log.records_lines, List.nil_append]
    exact twins

end Enable

/-- **Two enables of one device.** What steps of enables keep, whole enables keep, and they have one value and leave the
same records apart from the stamps. -/
theorem enable_joins {b : Bond σ τ} {d : Driver σ} {e : Driver τ} {now now' : Time.Timestamp} (h : b.Kept d e now now')
    (settings : EnableSettings) (id : UInt32) {ctx ctx' : Option RequestContext} (context : b.context ctx ctx')
    {m : Managed σ} {n : Managed τ} (hm : b.Holds m n) :
    b.Joins Eq ⟨now, requestIdOf ctx⟩ ⟨now', requestIdOf ctx'⟩ (enable d settings now ⟨id, ctx⟩ m)
      (enable e settings now' ⟨id, ctx'⟩ n) := by
  obtain ⟨driver, device, counters⟩ := hm
  have same := h.id _ _ device
  have counted := h.count Counters.countAttempt (by simp [Counters.events]) _ _ counters
  simp only [enable, same]
  split
  · obtain ⟨value, managed, twins⟩ := Enable.bringUp_joins id ctx ctx' h settings context
      (m := ⟨m.driver, m.device, m.counters.countAttempt⟩) (n := ⟨n.driver, n.device, n.counters.countAttempt⟩)
      ⟨driver, device, counted⟩
    exact ⟨value, managed, twins⟩
  · refine ⟨rfl, ⟨driver, device, counted⟩, ?_⟩
    simp only [Enable.records_beginEntry, Enable.unknownEntries, Enable.records_line, Log.records_audit, Log.records_nil]
    exact .cons (.of ((Enable.deviceRecord now ⟨id, ctx⟩ .deviceActivation "enable").change (.error _))) .nil

namespace Daemon

def Setup.over (s : Setup σ) (e : Driver τ) : Setup τ := ⟨e, s.settings, s.deviceId, s.depth, s.clock⟩

def Setup.under (s : Setup σ) (clock : Nat → Time.Timestamp) : Setup σ := { s with clock := clock }

def Command.stamp (now : Time.Timestamp) : Command → Audit.Stamp
  | .enable request => ⟨now, requestIdOf request.context⟩
  | _ => ⟨now, none⟩

/-- two commands of one kind, with contexts under a bond -/
inductive Command.Like (b : Bond σ τ) : Command → Command → Prop where
  | enable (id : UInt32) {ctx ctx' : Option RequestContext} (context : b.context ctx ctx') :
    Like b (.enable ⟨id, ctx⟩) (.enable ⟨id, ctx'⟩)
  | status : Like b .status .status
  | activate : Like b .activate .activate
  | deactivate : Like b .deactivate .deactivate
  | shutdown : Like b .shutdown .shutdown

theorem Command.Like.refl {b : Bond σ τ} (context : ∀ ctx, b.context ctx ctx) (command : Command) :
    command.Like b command := by
  cases command with
  | enable request => exact .enable request.deviceId (context request.context)
  | status => exact .status
  | activate => exact .activate
  | deactivate => exact .deactivate
  | shutdown => exact .shutdown

/-- two replies that are the same, apart from devices and counters under a bond -/
inductive Reply.Like (b : Bond σ τ) : Reply → Reply → Prop where
  | enabled (a : Activation) : Like b (.enabled a) (.enabled a)
  | status {x y : Device} {c c' : Counters} (device : b.device x y) (counters : b.counters c c') :
    Like b (.status ⟨x, c⟩) (.status ⟨y, c'⟩)
  | lifecycle (l : Lifecycle) : Like b (.lifecycle l) (.lifecycle l)
  | stopped : Like b .stopped .stopped

/-- only a status tells the device and the counters -/
theorem Reply.Like.eq_or {b : Bond σ τ} {r r' : Reply} (h : r.Like b r') : r = r' ∨ ∃ status, r = .status status := by
  cases h with
  | enabled a => exact .inl rfl
  | status device counters => exact .inr ⟨_, rfl⟩
  | lifecycle l => exact .inl rfl
  | stopped => exact .inl rfl

section

variable {b : Bond σ τ} {s : Setup σ} {e : Driver τ}

theorem override_joins {now now' : Time.Timestamp} (h : b.Kept s.driver e now now') (action : String) (l : Lifecycle)
    {m : Managed σ} {n : Managed τ} (hm : b.Holds m n) :
    let m' := { m with device := m.device.setLifecycle now l }
    let n' := { n with device := n.device.setLifecycle now' l }
    b.Joins (Reply.Like b) ⟨now, none⟩ ⟨now', none⟩
      ⟨.lifecycle m'.device.lifecycle, m', overrideEntries s now action m'⟩
      ⟨.lifecycle n'.device.lifecycle, n', overrideEntries (s.over e) now' action n'⟩ := by
  intro m' n'
  have hl : m'.device.lifecycle = l := Device.setLifecycle_lifecycle ..
  have hl' : n'.device.lifecycle = l := Device.setLifecycle_lifecycle ..
  refine ⟨?_, ⟨hm.driver, h.override l _ _ hm.device, hm.counters⟩, ?_⟩
  · simp only [hl, hl']
    exact .lifecycle l
  · simp only [overrideEntries, hl, hl']
    exact .cons (.of (record s now .adminAction action [("lifecycle", .text l.name)])) .nil

/-- **Two commands of one kind.** -/
theorem perform_joins {now now' : Time.Timestamp} (h : b.Kept s.driver e now now') {command command' : Command}
    (like : command.Like b command') {m : Managed σ} {n : Managed τ} (hm : b.Holds m n) :
    b.Joins (Reply.Like b) (command.stamp now) (command'.stamp now') (perform s now command m)
      (perform (s.over e) now' command' n) := by
  cases like with
  | enable id context =>
    obtain ⟨value, managed, twins⟩ := enable_joins h s.settings id context hm
    refine ⟨?_, managed, twins⟩
    simp only [perform, value]
    exact .enabled _
  | status => exact ⟨.status hm.device hm.counters, hm, .nil⟩
  | activate => exact override_joins h "activate" .active hm
  | deactivate => exact override_joins h "deactivate" .deactivated hm
  | shutdown => exact ⟨.stopped, hm, .nil⟩

/-- **Two sequences of commands.** -/
theorem performAll_joins {clock' : Nat → Time.Timestamp} (h : ∀ i j, b.Kept s.driver e (s.clock i) (clock' j))
    {commands commands' : List Command} (like : List.Forall₂ (Command.Like b) commands commands') (i j : Nat)
    {m : Managed σ} {n : Managed τ} (hm : b.Holds m n) :
    let v := performAll s i commands m
    let w := performAll ((s.over e).under clock') j commands' n
    List.Forall₂ (Reply.Like b) v.value w.value ∧ b.Holds v.managed w.managed := by
  induction like generalizing i j m n with
  | nil => exact ⟨.nil, hm⟩
  | cons first _ ih =>
    obtain ⟨value, managed, -⟩ := perform_joins (h i j) first hm
    obtain ⟨values, final⟩ := ih (i + 1) (j + 1) managed
    exact ⟨.cons value values, final⟩

end

end Daemon

/-! ## Drivers that answer alike -/

variable {R : σ → τ → Prop} {d : Driver σ} {e : Driver τ}

/-- one device over two drivers, as a bond -/
def Bond.alike (R : σ → τ → Prop) : Bond σ τ := ⟨Eq, R, Eq, Eq⟩

theorem Driver.Alike.kept (h : d.Alike R e) (now : Time.Timestamp) : (Bond.alike R).Kept d e now now where
  hostInit := by
    rintro ctx _ s t rfl hst
    exact h.hostInit ctx s t hst
  readConfig := h.readConfig
  submit := h.submit
  id x y hxy := congrArg Device.id hxy
  commit usable ponPorts x y hxy := congrArg (Device.commit · now usable ponPorts) hxy
  override l x y hxy := congrArg (Device.setLifecycle · now l) hxy
  count event _ c c' hc := congrArg event hc

/-- **Like drivers give like enables.** -/
theorem enable_alike (h : d.Alike R e) (settings : EnableSettings) (now : Time.Timestamp) (request : Enable.Request)
    {m : Managed σ} {n : Managed τ} (hm : m.Alike R n) :
    (enable d settings now request m).Alike R (enable e settings now request n) := by
  obtain ⟨value, managed, -⟩ := enable_joins (h.kept now) settings request.deviceId (rfl : request.context = request.context)
    (m := m) (n := n) ⟨hm.driver, hm.device, hm.counters⟩
  exact ⟨value, managed.driver, managed.device, managed.counters⟩

namespace Daemon

/-- under the bond of one device, like replies are the same -/
theorem Reply.Like.eq {r r' : Reply} (h : r.Like (Bond.alike R) r') : r = r' := by
  cases h with
  | enabled a => rfl
  | status device counters =>
    cases device
    cases counters
    rfl
  | lifecycle l => rfl
  | stopped => rfl

theorem perform_alike {s : Setup σ} (h : s.driver.Alike R e) (now : Time.Timestamp) (command : Command)
    {m : Managed σ} {n : Managed τ} (hm : m.Alike R n) :
    (perform s now command m).Alike R (perform (s.over e) now command n) := by
  obtain ⟨value, managed, -⟩ := perform_joins (h.kept now) (Command.Like.refl (fun _ => rfl) command)
    (m := m) (n := n) ⟨hm.driver, hm.device, hm.counters⟩
  exact ⟨value.eq, managed.driver, managed.device, managed.counters⟩

/-- **Like drivers give like runs.** -/
theorem performAll_alike {s : Setup σ} (h : s.driver.Alike R e) (commands : List Command) (k : Nat)
    {m : Managed σ} {n : Managed τ} (hm : m.Alike R n) :
    (performAll s k commands m).Alike R (performAll (s.over e) k commands n) := by
  induction commands generalizing k m n with
  | nil => exact ⟨rfl, hm⟩
  | cons command commands ih =>
    have hw := perform_alike h (s.clock k) command hm
    have hr := ih (k + 1) hw.managed
    refine ⟨?_, hr.managed⟩
    show _ :: _ = _ :: _
    rw [hw.value, hr.value]
    rfl

end Daemon

/-! ## A journal changes nothing -/

/-- a journal beside the state that it belongs to -/
def Journaled.Of (j : Journaled σ) (s : σ) : Prop := j.state = s

theorem journaled_alike (d : Driver σ) : d.journaled.Alike Journaled.Of d where
  hostInit ctx s t h := by cases h; exact ⟨rfl, rfl⟩
  readConfig olt s t h := by cases h; exact ⟨rfl, rfl⟩
  submit olt operation s t h := by cases h; exact ⟨rfl, rfl⟩

theorem Managed.journaled_alike (m : Managed σ) : m.journaled.Alike Journaled.Of m := ⟨rfl, rfl, rfl⟩

/-- the same state, and some more calls noted at the front -/
def Journaled.Longer (before : List Call) (j k : Journaled σ) : Prop :=
  j.state = k.state ∧ j.calls = before ++ k.calls

theorem journaled_longer (d : Driver σ) (before : List Call) :
    d.journaled.Alike (Journaled.Longer before) d.journaled where
  hostInit ctx s t h := by
    obtain ⟨hs, hc⟩ := h
    simp only [Driver.journaled, Driver.note, hs, hc]
    exact ⟨rfl, rfl, List.append_assoc ..⟩
  readConfig olt s t h := by
    obtain ⟨hs, hc⟩ := h
    simp only [Driver.journaled, Driver.note, hs, hc]
    exact ⟨rfl, rfl, List.append_assoc ..⟩
  submit olt operation s t h := by
    obtain ⟨hs, hc⟩ := h
    simp only [Driver.journaled, Driver.note, hs, hc]
    exact ⟨rfl, rfl, List.append_assoc ..⟩

namespace Daemon

/-- **A journal changes no run.** -/
theorem performAll_journaled (s : Setup σ) (k : Nat) (commands : List Command) (m : Managed σ) :
    (performAll s.journaled k commands m.journaled).Alike Journaled.Of (performAll s k commands m) :=
  performAll_alike (s := s.journaled) (LineTerminal.journaled_alike s.driver) commands k m.journaled_alike

/-- what a command adds to a journal is what it notes in an empty one -/
theorem perform_calls (s : Setup σ) (now : Time.Timestamp) (command : Command) (m : Managed (Journaled σ)) (n : Managed σ)
    (h : m.Alike Journaled.Of n) :
    (perform s.journaled now command m).managed.driver.calls
      = m.driver.calls ++ (perform s.journaled now command n.journaled).managed.driver.calls := by
  have hm : m.Alike (Journaled.Longer m.driver.calls) n.journaled :=
    ⟨⟨h.driver, (List.append_nil _).symm⟩, h.device, h.counters⟩
  exact (perform_alike (s := s.journaled) (journaled_longer s.driver _) now command hm).managed.driver.2

end Daemon

end LineTerminal
