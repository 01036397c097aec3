/-
The device record as a replay of its history.

The history of a run is the list of its commands with their replies. `device_replay`: after any run on a fresh device,
- the lifecycle is the one written last (`written`), and deactivated if none was written: an override writes its own, an
  enable that attempted its ports writes its verdict, and nothing else writes;
- the number of PON ports is that of the last enable that attempted its ports (`attempted`), whatever overrides came
  after it;
- the id is the one the device began with;
- an enable that was rejected left the whole record as it was.
Every driver and every clock is allowed. Reading the status and shutting down write nothing.
-/
import LineTerminal.Proofs.Enable.Course

namespace LineTerminal.Daemon

variable {σ : Type}

/-- the lifecycle a command wrote, if it wrote one -/
def written : Command × Reply → Option Lifecycle
  | (.activate, _) => some .active
  | (.deactivate, _) => some .deactivated
  | (.enable _, .enabled a) =>
    if a.isRejected then none else if a.isOk then some .active else some .deactivated
  | _ => none

/-- the number of PON ports a command attempted, if it got as far as its ports -/
def attempted : Command × Reply → Option Nat
  | (.enable _, .enabled a) => if a.isRejected then none else some a.ports.length
  | _ => none

/-! ## One enable -/

theorem enable_rejected_device (d : Driver σ) (settings : EnableSettings) (now : Time.Timestamp)
    (request : Enable.Request) (m : Managed σ) (h : (enable d settings now request m).value.isRejected = true) :
    (enable d settings now request m).managed.device = m.device := by
  have course := Enable.enable_course d settings now request m
  generalize enable d settings now request m = v at course h ⊢
  cases course with
  | unknown other => rfl
  | hostFailed known e host => rfl
  | readFailed known host e read => rfl
  | attempted known host found read w ports =>
    simp only [ports, Enable.attempt_value, Activation.isRejected_ofPorts, Bool.false_eq_true] at h

/-- any other enable commits its verdict and the number of its ports -/
theorem enable_attempted_device (d : Driver σ) (settings : EnableSettings) (now : Time.Timestamp)
    (request : Enable.Request) (m : Managed σ) (h : (enable d settings now request m).value.isRejected = false) :
    ∃ count : UInt32, (enable d settings now request m).value.ports.length = count.toNat ∧
      (enable d settings now request m).managed.device
        = m.device.commit now (enable d settings now request m).value.isOk count := by
  have course := Enable.enable_course d settings now request m
  generalize enable d settings now request m = v at course h ⊢
  cases course with
  | unknown other => cases h
  | hostFailed known e host => cases h
  | readFailed known host e read =>
    obtain ⟨cause, rfl, -⟩ := Enable.configRead_of_discover read
    cases h
  | attempted known host found read w ports =>
    refine ⟨found.count, ?_, ?_⟩
    · rw [ports, Enable.length_attempt_ports]
    · show w.managed.device = m.device.commit now w.value.isOk found.count
      rw [ports, Enable.attempt_device]

/-! ## One command -/

theorem perform_device (s : Setup σ) (now : Time.Timestamp) (command : Command) (m : Managed σ) :
    let w := perform s now command m
    w.managed.device.lifecycle = (written (command, w.value)).getD m.device.lifecycle ∧
      w.managed.device.ponPorts.map UInt32.toNat
        = (attempted (command, w.value)).or (m.device.ponPorts.map UInt32.toNat) ∧
      w.managed.device.id = m.device.id := by
  cases command with
  | enable request =>
    simp only [perform]
    cases h : (enable s.driver s.settings now request m).value.isRejected with
    | true =>
      rw [enable_rejected_device _ _ _ _ _ h]
      simp [written, attempted, h]
    | false =>
      obtain ⟨count, hlen, hdev⟩ := enable_attempted_device _ _ _ _ _ h
      rw [hdev]
      refine ⟨?_, ?_, ?_⟩
      · simp only [Device.commit, Device.setLifecycle_lifecycle, written, h, Bool.false_eq_true, ↓reduceIte]
        split <;> rfl
      · simp [Device.commit, attempted, h, hlen]
      · simp [Device.commit]
  | status => exact ⟨rfl, rfl, rfl⟩
  | activate => simp [perform, Device.activate, written, attempted]
  | deactivate => simp [perform, Device.deactivate, written, attempted]
  | shutdown => exact ⟨rfl, rfl, rfl⟩

/-! ## A run -/

/-- what was written last, when one more command stands in front -/
theorem getLast?_filterMap_cons {α β : Type} (f : α → Option β) (a : α) (l : List α) :
    ((a :: l).filterMap f).getLast? = (l.filterMap f).getLast?.or (f a) := by
  cases h : f a with
  | none => rw [List.filterMap_cons_none h, Option.or_none]
  | some b => rw [List.filterMap_cons_some h, List.getLast?_cons]; cases (l.filterMap f).getLast? <;> rfl

theorem performAll_device (s : Setup σ) (n : Nat) (commands : List Command) (m : Managed σ) :
    let w := performAll s n commands m
    let history := commands.zip w.value
    w.managed.device.lifecycle = (history.filterMap written).getLast?.getD m.device.lifecycle ∧
      w.managed.device.ponPorts.map UInt32.toNat
        = (history.filterMap attempted).getLast?.or (m.device.ponPorts.map UInt32.toNat) ∧
      w.managed.device.id = m.device.id := by
  induction commands generalizing n m with
  | nil => exact ⟨rfl, rfl, rfl⟩
  | cons command commands ih =>
    obtain ⟨hl, hp, hi⟩ := perform_device s (s.clock n) command m
    obtain ⟨il, ip, ii⟩ := ih (n + 1) (perform s (s.clock n) command m).managed
    simp only [performAll, List.zip_cons_cons, getLast?_filterMap_cons]
    refine ⟨?_, ?_, ii.trans hi⟩
    · rw [il, hl, Option.getD_or]
    · rw [ip, hp, Option.or_assoc]

/-- **The record replays its history.** After any commands on a fresh device, over any driver: the lifecycle is the one
written last, the number of ports is that of the last enable that attempted its ports, the id is the one from the
beginning, and an enable that was rejected changed nothing. -/
theorem device_replay (s : Setup σ) (n : Nat) (commands : List Command) (driver : σ) (id : UInt32) :
    let run := fun commands => performAll s n commands (.fresh driver id)
    let history := commands.zip (run commands).value
    (run commands).value.length = commands.length ∧
    (run commands).managed.device.lifecycle = (history.filterMap written).getLast?.getD .deactivated ∧
    (run commands).managed.device.ponPorts.map UInt32.toNat = (history.filterMap attempted).getLast? ∧
    (run commands).managed.device.id = id ∧
    ∀ before request after, commands = before ++ .enable request :: after →
      ∃ a, (run commands).value[before.length]? = some (.enabled a) ∧
        (a.isRejected = true → (run (before ++ [.enable request])).managed.device = (run before).managed.device) := by
  intro run history
  obtain ⟨hl, hp, hi⟩ := performAll_device s n commands (.fresh driver id)
  refine ⟨length_performAll_value .., hl, hp.trans Option.or_none, hi, ?_⟩
  rintro before request after rfl
  refine ⟨(enable s.driver s.settings (s.clock (n + before.length)) request (run before).managed).value, ?_, ?_⟩
  · simp only [run, performAll_append, performAll]
    rw [List.getElem?_append_right (Nat.le_of_eq (length_performAll_value ..)), length_performAll_value, Nat.sub_self]
    rfl
  · intro h
    simp only [run, performAll_append, performAll]
    exact enable_rejected_device _ _ _ _ _ h

end LineTerminal.Daemon
