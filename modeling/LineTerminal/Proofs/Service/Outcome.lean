/-
How a whole run ends.

A refused configuration ends the run before there is a daemon. Any other one, as long as its queue can be made, is served
until the interrupt and ends well, whatever became of the enable at the start:
- `enable_own`: an enable that is addressed to the managed device is never taken for one of another device, and makes a
  device active exactly when it succeeds;
- `completed`: so the run asks for the enable once, if that is configured, then for the shutdown, and gets both replies;
  what it reports at the end is the verdict of the enable, and its log has no entry for a reply that was missing or for a
  daemon that was lost.

`run_outcome` puts that together for all flags and files. Without the vendor's library the enable is always refused, and
the run ends well all the same. The interrupt is one that comes when the enable at the start has been answered; what an
earlier one does is not said here.
-/
import LineTerminal.Driver.Scripted
import LineTerminal.Proofs.Enable.Course
import LineTerminal.Proofs.Service.Course

namespace LineTerminal

variable {σ : Type}

/-! ## The enable of the managed device -/

theorem verdict_ne_unknownDevice (ports : List PortReport) (requested managed : UInt32) :
    verdict ports ≠ some (.unknownDevice requested managed) := by
  unfold verdict
  split <;> exact nofun

/-- what an enable that is addressed to the managed device leaves behind, when the device was not active -/
structure Enable.Own (m : Managed σ) (w : Work σ Activation) : Prop where
  known : ∀ requested managed, w.value.error ≠ some (.unknownDevice requested managed)
  active : w.managed.device.lifecycle = .active ↔ w.value.isOk = true
  id : w.managed.device.id = m.device.id

theorem enable_own (d : Driver σ) (settings : EnableSettings) (now : Time.Timestamp) {request : Enable.Request}
    {m : Managed σ} (own : request.deviceId = m.device.id) (off : m.device.lifecycle = .deactivated) :
    Enable.Own m (enable d settings now request m) := by
  have course := Enable.enable_course d settings now request m
  generalize enable d settings now request m = v at course ⊢
  cases course with
  | unknown other => exact absurd own other
  | hostFailed known e host => exact ⟨nofun, by rw [off]; exact ⟨nofun, nofun⟩, rfl⟩
  | readFailed known host e read =>
    obtain ⟨cause, rfl, -⟩ := Enable.configRead_of_discover read
    exact ⟨nofun, by rw [off]; exact ⟨nofun, nofun⟩, rfl⟩
  | attempted known host found read w ports =>
    subst ports
    refine ⟨fun requested managed => ?_, ?_, ?_⟩
    · rw [Enable.attempt_value]
      exact verdict_ne_unknownDevice _ requested managed
    · rw [Enable.attempt_device, Device.commit, Device.setLifecycle_lifecycle]
      cases (Enable.attempt d now request found _).value.isOk <;> simp
    · rw [Enable.attempt_device, Device.commit, Device.setLifecycle_id]

/-! ## The run -/

namespace Service

open Daemon (Setup Session Command Reply)
open Log (Entry)

section Run

variable (driver : Driver σ) (clock : Nat → Time.Timestamp) (file : Option String) (c : Config.Agent) (start : σ)

/-- a run that was served to its end: the daemon that is left of it, and its log -/
structure Completed (around : Surroundings) (r : Running σ) (e : Stopped σ) : Prop where
  ending : e.ending = .finished
  gone : e.session.phase = .gone
  /-- the enable of the merged device, if that is configured, then the shutdown -/
  sent : e.session.sent = startupRequests c ++ [(1, .shutdown)]
  /-- both are carried out in this order -/
  served : e.session.served.map (·.1.label) = e.session.sent
  /-- and both requesters get their replies -/
  enabled : c.enableOnStartup = true →
    e.session.reply? 0 = some (.ok (.enabled (startupWork driver clock c start).value))
  stopped : e.session.reply? 1 = some (.ok .stopped)
  /-- without the enable there is none, and the driver is not called -/
  quiet : c.enableOnStartup = false → e.session.reply? 0 = none ∧ e.session.managed.driver = start
  /-- the enable is for the device that the daemon manages -/
  id : e.session.managed.device.id = c.deviceId
  known : ∀ requested managed, (startupWork driver clock c start).value.error ≠ some (.unknownDevice requested managed)
  /-- the verdict is logged before the program serves, and with what the daemon writes there is no other entry about the
  enable, the shutdown or the end of the daemon -/
  before : r.log = openingEntries (clock 0) file c ++ r.session.log ++ verdictEntries driver clock c start
  log : e.log = r.log ++ interruptEntry around.interrupt :: e.session.log.drop r.session.log.length
    ++ [completeEntry e.session.managed.device]
  told : c.enableOnStartup = true → enabledEntry c.deviceId (startupWork driver clock c start).value ∈ e.log
  /-- the lifecycle at the end is the verdict of the enable, and it is reported -/
  lifecycle : e.session.managed.device.lifecycle = .active
    ↔ ∃ a, e.session.reply? 0 = some (.ok (.enabled a)) ∧ a.isOk = true
  reported : e.log.getLast? = some (completeEntry e.session.managed.device)

variable {driver clock file c start}

theorem own_startupWork (driver : Driver σ) (clock : Nat → Time.Timestamp) (c : Config.Agent) (start : σ) :
    Enable.Own (.fresh start c.deviceId) (startupWork driver clock c start) := enable_own driver c.enable (clock 1) rfl rfl

/-- **A run that serves is completed**, at whatever time the interrupt comes from then on and whatever it is like -/
theorem completed {r : Running σ} (launched : launch driver clock file c start = .ok r) (later : Nat → Time.Timestamp)
    (around : Surroundings) : Completed driver clock file c start around r (stop driver later around r) := by
  obtain ⟨-, begun, before⟩ := launch_serving launched
  have ended := begun.ended (setup driver later r.config)
  rw [begun.stop_eq later around]
  generalize r.session.ask (setup driver later r.config) [shutdownTicket] = y at ended ⊢
  have own := own_startupWork driver clock c start
  have managed := ended.managed.trans begun.managed
  have reply := begun.reply? ended
  have sent : y.sent = startupRequests c ++ [(1, .shutdown)] := by rw [ended.sent, begun.sent]; rfl
  have served : y.served.map (·.1.label) = y.sent := by
    rw [ended.served, sent, begun.served, startupRequests]
    cases c.enableOnStartup <;> rfl
  cases configured : c.enableOnStartup with
  | false =>
    simp only [configured, Bool.false_eq_true, if_false] at reply managed
    exact {
      ending := rfl, gone := ended.gone, sent, served, before, log := rfl, reported := List.getLast?_concat
      enabled := fun on => (Bool.false_ne_true (configured.symm.trans on)).elim
      stopped := reply 1
      quiet := fun _ => ⟨reply 0, congrArg Managed.driver managed⟩
      id := by rw [managed]; rfl
      known := own.known
      told := fun on => (Bool.false_ne_true (configured.symm.trans on)).elim
      lifecycle := by
        rw [managed, reply 0]
        constructor
        · intro active
          cases active
        · rintro ⟨a, answer, -⟩
          cases answer }
  | true =>
    simp only [configured, if_true] at reply managed
    exact {
      ending := rfl, gone := ended.gone, sent, served, before, log := rfl, reported := List.getLast?_concat
      enabled := fun _ => reply 0
      stopped := reply 1
      quiet := fun off => (Bool.false_ne_true (off.symm.trans configured)).elim
      id := by rw [managed]; exact own.id
      known := own.known
      told := fun _ => by
        rw [before, verdictEntries, if_pos configured]
        simp
      lifecycle := by
        rw [managed, own.active, reply 0]
        constructor
        · intro ok
          exact ⟨_, rfl, ok⟩
        · rintro ⟨a, same, ok⟩
          cases same
          exact ok }

/-- the device is active at the end exactly when the enable was configured and succeeded -/
theorem Completed.active_iff {around : Surroundings} {r : Running σ} {e : Stopped σ}
    (done : Completed driver clock file c start around r e) : e.session.managed.device.lifecycle = .active
      ↔ c.enableOnStartup = true ∧ (startupWork driver clock c start).value.isOk = true := by
  rw [done.lifecycle]
  constructor
  · rintro ⟨a, reply, ok⟩
    cases configured : c.enableOnStartup with
    | false => exact nomatch (done.quiet configured).1.symm.trans reply
    | true =>
      rw [done.enabled configured] at reply
      cases reply
      exact ⟨rfl, ok⟩
  · rintro ⟨configured, ok⟩
    exact ⟨_, done.enabled configured, ok⟩

end Run

/-! ## Any command line, any file -/

/-- without the vendor's library the host side never comes up -/
theorem startupWork_unlinked (clock : Nat → Time.Timestamp) (c : Config.Agent) (start : σ) :
    (startupWork Vendor.unlinked clock c start).value
      = .rejected (.hostInit (.notSupported "BAL host library not linked")) := by
  simp [startupWork, enable, Managed.fresh, Device.fresh, Enable.bringUp, Vendor.unlinked, Vendor.notLinked]

/-- a configuration whose queue can be made is served to its end -/
theorem run_served (driver : Driver σ) (clock : Nat → Time.Timestamp) (around : Surroundings) (file : Option String)
    {c : Config.Agent} (start : σ) (shallow : c.queueDepth.toNat ≤ Daemon.maxCapacity) :
    ∃ r, launch driver clock file c start = .ok r ∧
      run driver clock around file (.ok c) start =
        ⟨.finished, true, (stop driver clock around r).log, some (stop driver clock around r).session⟩ := by
  have fits : (setup driver clock c).fits = true :=
    decide_eq_true (Nat.max_le.2 ⟨shallow, by decide⟩)
  obtain ⟨r, launched, -⟩ := launch_eq_ok driver clock file c start fits
  refine ⟨r, launched, ?_⟩
  simp only [run, launched, (completed launched clock around).ending]

/-- **A failed enable never takes the agent down.** For the flags of any command line, whatever the file is read as, over
any driver: a refused configuration ends the run with a failure before there is a daemon. Any other one whose queue can be
made is served, and after an interrupt at any later time the run is completed and ends well, even if the interrupt could
not be waited for. Without the vendor's library the enable is rejected and the device stays deactivated. -/
theorem run_outcome (flags : Cli.Flags) (read : String → Except File.Fault String) (driver : Driver σ)
    (clock : Nat → Time.Timestamp) (around : Surroundings) (start : σ) :
    let whole := fun (driver : Driver σ) => run driver clock around flags.configFile (flags.configure read) start
    (∀ e, flags.configure read = .error e →
      whole driver = ⟨.refused, false, [refusedEntry e], none⟩ ∧ (whole driver).ending.code = 1) ∧
    ∀ c, flags.configure read = .ok c → c.queueDepth.toNat ≤ Daemon.maxCapacity →
      (∃ r, launch driver clock flags.configFile c start = .ok r ∧
        (∀ later around,
          Completed driver clock flags.configFile c start around r (stop driver later around r)) ∧
        whole driver = ⟨.finished, true, (stop driver clock around r).log, some (stop driver clock around r).session⟩ ∧
        (whole driver).ending.code = 0) ∧
      ∃ x, (whole Vendor.unlinked).session = some x ∧ (whole Vendor.unlinked).ending.code = 0 ∧
        x.managed.device.lifecycle = .deactivated ∧ (c.enableOnStartup = true →
          x.reply? 0 = some (.ok (.enabled (.rejected (.hostInit (.notSupported "BAL host library not linked")))))) := by
  intro whole
  refine ⟨fun e refused => ?_, fun c accepted shallow => ⟨?_, ?_⟩⟩
  · simp only [whole, refused]
    exact ⟨rfl, rfl⟩
  · obtain ⟨r, launched, same⟩ := run_served driver clock around flags.configFile start shallow
    simp only [whole, accepted]
    exact ⟨r, launched, completed launched, same, by rw [same]; rfl⟩
  · obtain ⟨r, launched, same⟩ := run_served Vendor.unlinked clock around flags.configFile start shallow
    have done := completed launched clock around
    simp only [whole, accepted, same]
    refine ⟨_, rfl, rfl, ?_, fun configured => ?_⟩
    · cases lifecycle : (stop Vendor.unlinked clock around r).session.managed.device.lifecycle with
      | active =>
        obtain ⟨-, ok⟩ := done.active_iff.1 lifecycle
        rw [startupWork_unlinked] at ok
        cases ok
      | deactivated => rfl
    · rw [done.enabled configured, startupWork_unlinked]

/-- an id that no terminal has is refused; neither a host side that does not come up nor an interrupt that cannot be waited
for is a reason to end with a failure -/
theorem run_outcome_failing :
    let read : String → Except File.Fault String := fun _ => .error .notFound
    let start : Scripted := .fresh { Script.silent with hostInit := .internal }
    let around : Surroundings := ⟨.error "no signals", "lost"⟩
    let whole := fun flags : Cli.Flags =>
      run Scripted.driver (fun _ => .epoch) around flags.configFile (flags.configure read) start
    (whole { Cli.Flags.none with deviceId := some 16 }).ending.code = 1 ∧
    (whole .none).ending.code = 0 ∧ ∃ x, (whole .none).session = some x ∧ x.phase = .gone := by
  intro read start around whole
  obtain ⟨refused, -⟩ :=
    run_outcome { Cli.Flags.none with deviceId := some 16 } read Scripted.driver (fun _ => .epoch) around start
  obtain ⟨-, served⟩ := run_outcome .none read Scripted.driver (fun _ => .epoch) around start
  obtain ⟨⟨r, -, completed, same, code⟩, -⟩ := served .standard rfl (by decide)
  exact ⟨(refused _ rfl).2, code, _, congrArg Report.session same, (completed _ _).gone⟩

end Service

end LineTerminal
