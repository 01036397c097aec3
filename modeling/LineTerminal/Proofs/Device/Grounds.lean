/-
What an enabled device stands on.

An empty set of ports counts as a success, so a success alone does not say that anything came up. What makes it mean
something is the configuration: `validate` demands at least one fallback port.
- `enable_grounds`: an enable that took the fallback ports attempts at least one, and an enable that succeeded activated a
  port, or the terminal was read and said that it has none (`Grounds`);
- `performAll_split`: what a run does at one of its commands, and from there on;
- `active_before`: a device that is active after commands that neither override it to active nor commit an enable was
  active before them.

`enabled_on_grounds`: in any run of a valid configuration every enable is of this kind, and a device that is active was
made so by an override or by an enable with grounds.
-/
import LineTerminal.Driver.Scripted
import LineTerminal.Proofs.Device.Replay
import LineTerminal.Proofs.Enable.Trail
import LineTerminal.Service

namespace LineTerminal

variable {σ : Type}

namespace Enable

/-! ## One enable -/

/-- what the success of an enable stands on -/
inductive Grounds (d : Driver σ) (request : Request) (m : Managed σ) (a : Activation) : Prop where
  /-- a port came up, and the driver had said so -/
  | port (p : PortReport) (reported : p ∈ a.ports) (success : p.status = .success)
      (answered : .ok () ∈ portAnswers d request m a)
  /-- the terminal was read, and said that it has no ports -/
  | told (host : (hostAnswer d request m).outcome = .ok ()) (info : OltInfo)
      (read : (configAnswer d request m).outcome = .ok info) (none : info.ponPorts = 0)
      (discovery : a.discovery = some .configured) (ports : a.ports = [])

def TookFallback (a : Activation) : Prop :=
  a.discovery = some .notConnectedFallback ∨ a.discovery = some .errorFallback

theorem not_tookFallback_rejected (e : EnableError) : ¬ TookFallback (.rejected e) := by
  rintro (f | f)
  · cases f
  · cases f

theorem Grounds.of_fallback {d : Driver σ} {request : Request} {m : Managed σ} {a : Activation}
    (h : Grounds d request m a) (fallback : TookFallback a) : ∃ p ∈ a.ports, p.status = .success := by
  cases h with
  | port p reported success answered => exact ⟨p, reported, success⟩
  | told host info read none discovery ports =>
    rcases fallback with f | f
    · rw [discovery] at f
      cases f
    · rw [discovery] at f
      cases f

/-- the number of ports comes from the terminal, or it is the fallback number -/
theorem discover_eq_ok {settings : EnableSettings} {answer : Except DriverError OltInfo} {found : Found}
    (h : discover settings answer = .ok found) :
    (found.discovery = .configured ∧ ∃ info, answer = .ok info ∧ found.count = info.ponPorts) ∨
      (found.discovery ≠ .configured ∧ found.count = settings.fallbackPonPorts) := by
  cases answer with
  | ok info =>
    cases h
    exact .inl ⟨rfl, info, rfl, rfl⟩
  | error e =>
    simp only [discover] at h
    split at h
    · cases h
      exact .inr ⟨by simp, rfl⟩
    · split at h
      · cases h
        exact .inr ⟨by simp, rfl⟩
      · cases h

/-- a port that is reported to have come up was answered so -/
theorem answered_of_success {d : Driver σ} {now : Time.Timestamp} {request : Request} {found : Found} {m n : Managed σ}
    {p : PortReport} (olt : n.device.olt = m.device.olt) (state : n.driver = (configAnswer d request m).state)
    (reported : p ∈ (attempt d now request found n).value.ports) (success : p.status = .success) :
    .ok () ∈ portAnswers d request m (attempt d now request found n).value := by
  have pons : (attempt d now request found n).value.ports.map (·.pon) = interfaces found.count := by
    rw [attempt_value, Activation.ofPorts, map_pon_zipWith (Driver.length_activations ..)]
  rw [portAnswers, pons, ← olt, ← state]
  rw [attempt_value, Activation.ofPorts] at reported
  obtain ⟨i, hi⟩ := List.mem_iff_getElem?.1 reported
  rw [List.getElem?_zipWith_eq_some] at hi
  obtain ⟨pon, answer, -, answered, rfl⟩ := hi
  cases answer with
  | ok u => exact List.mem_of_getElem? answered
  | error e => cases success

/-- **An enable that succeeded has grounds**, as long as there is a fallback port. -/
theorem enable_grounds (d : Driver σ) {settings : EnableSettings} (positive : 1 ≤ settings.fallbackPonPorts)
    (now : Time.Timestamp) (request : Request) (m : Managed σ) :
    let a := (enable d settings now request m).value
    (TookFallback a → a.ports ≠ []) ∧ (a.isOk = true → Grounds d request m a) := by
  have course := enable_course d settings now request m
  generalize enable d settings now request m = v at course ⊢
  cases course with
  | unknown other => exact ⟨fun f => absurd f (not_tookFallback_rejected _), nofun⟩
  | hostFailed known e host => exact ⟨fun f => absurd f (not_tookFallback_rejected _), nofun⟩
  | readFailed known host e read => exact ⟨fun f => absurd f (not_tookFallback_rejected _), nofun⟩
  | attempted known host found read w ports =>
    have length : w.value.ports.length = found.count.toNat := by rw [ports, length_attempt_ports]
    have value : w.value = .ofPorts w.value.ports found.discovery := ports ▸ attempt_eq_ofPorts ..
    have discovery : w.value.discovery = some found.discovery := by rw [value, Activation.ofPorts]
    have some' : found.count = settings.fallbackPonPorts → w.value.ports ≠ [] := by
      intro count none
      rw [none, count] at length
      have : 1 ≤ settings.fallbackPonPorts.toNat := UInt32.le_iff_toNat_le.1 positive
      rw [← length] at this
      exact absurd this (by simp)
    refine ⟨fun fallback => ?_, fun ok => ?_⟩
    · rcases discover_eq_ok read with ⟨configured, -⟩ | ⟨-, count⟩
      · simp only [TookFallback, discovery, configured, Option.some.injEq, reduceCtorEq, or_self] at fallback
      · exact some' count
    · have passed : verdict w.value.ports = none := by
        rw [Activation.isOk, value, Activation.ofPorts] at ok
        exact Option.isNone_iff_eq_none.1 ok
      by_cases success : ∃ p ∈ w.value.ports, p.status = .success
      · obtain ⟨p, reported, success⟩ := success
        refine .port p reported success ?_
        subst ports
        exact answered_of_success rfl rfl reported success
      · -- nothing came up, so there was no port, and then the terminal has said so
        have none : w.value.ports = [] := ((verdict_eq_none_iff _).1 passed).resolve_right success
        rcases discover_eq_ok read with ⟨configured, info, answer, count⟩ | ⟨-, count⟩
        · refine .told host info answer ?_ (discovery.trans (congrArg some configured)) none
          rw [none, count] at length
          exact UInt32.toNat.inj length.symm
        · exact absurd none (some' count)

end Enable

namespace Daemon

open Enable (Grounds TookFallback enable_grounds)

/-! ## One command of a run -/

/-- a run up to one of its commands, that command, and the run from there on -/
theorem performAll_split {s : Setup σ} {before after : List (Command × Reply)} {command : Command} {r : Reply}
    {n : Nat} {commands : List Command} {m : Managed σ}
    (h : commands.zip (performAll s n commands m).value = before ++ (command, r) :: after) :
    let w := perform s (s.clock (n + before.length)) command (performAll s n (before.map (·.1)) m).managed
    let rest := performAll s (n + before.length + 1) (after.map (·.1)) w.managed
    r = w.value ∧ (performAll s n commands m).managed = rest.managed ∧ (after.map (·.1)).zip rest.value = after := by
  induction before generalizing n commands m with
  | nil =>
    cases commands with
    | nil => cases h
    | cons first commands =>
      simp only [performAll, List.zip_cons_cons, List.nil_append, List.cons.injEq, Prod.mk.injEq] at h
      obtain ⟨⟨rfl, rfl⟩, rfl⟩ := h
      have names : (commands.zip (performAll s (n + 1) commands (perform s (s.clock n) first m).managed).value).map (·.1)
          = commands := List.map_fst_zip (Nat.le_of_eq (length_performAll_value ..).symm)
      simp only [List.map_nil, List.length_nil, Nat.add_zero, performAll, names, and_self]
  | cons b before ih =>
    cases commands with
    | nil => cases h
    | cons first commands =>
      simp only [performAll, List.zip_cons_cons, List.cons_append, List.cons.injEq] at h
      obtain ⟨rfl, h⟩ := h
      have place : n + 1 + before.length = n + (before.length + 1) := by omega
      have rest := ih h
      rw [place] at rest
      exact rest

/-- an enable that committed its verdict and left the device active has succeeded -/
theorem isOk_of_active {d : Driver σ} {settings : EnableSettings} {now : Time.Timestamp} {request : Enable.Request}
    {m : Managed σ} (kept : (enable d settings now request m).value.isRejected = false)
    (active : (enable d settings now request m).managed.device.lifecycle = .active) :
    (enable d settings now request m).value.isOk = true := by
  obtain ⟨count, -, device⟩ := enable_attempted_device d settings now request m kept
  rw [device, Device.commit, Device.setLifecycle_lifecycle] at active
  by_contra failed
  rw [if_neg failed] at active
  cases active

/-! ## Who wrote the lifecycle -/

/-- what a command other than an override to active or a committed enable writes -/
theorem written_ne_active {h : Command × Reply} (override : h.1 ≠ .activate) (committed : attempted h = none) :
    written h ≠ some .active := by
  intro active
  match h with
  | (.activate, _) => exact override rfl
  | (.deactivate, _) => cases active
  | (.status, _) => cases active
  | (.shutdown, _) => cases active
  | (.enable _, .status _) => cases active
  | (.enable _, .lifecycle _) => cases active
  | (.enable _, .stopped) => cases active
  | (.enable _, .enabled a) =>
    simp only [attempted] at committed
    split at committed
    · rename_i rejected
      simp only [written, rejected, ↓reduceIte, reduceCtorEq] at active
    · cases committed

/-- an active device was active before commands that neither override it to active nor commit an enable -/
theorem active_before {s : Setup σ} {n : Nat} {commands : List Command} {m : Managed σ}
    (override : ∀ h ∈ commands.zip (performAll s n commands m).value, h.1 ≠ .activate)
    (committed : ∀ h ∈ commands.zip (performAll s n commands m).value, attempted h = none)
    (active : (performAll s n commands m).managed.device.lifecycle = .active) : m.device.lifecycle = .active := by
  rw [(performAll_device s n commands m).1] at active
  cases last : ((commands.zip (performAll s n commands m).value).filterMap written).getLast? with
  | none =>
    rw [last] at active
    exact active
  | some l =>
    rw [last] at active
    obtain ⟨h, mem, wrote⟩ := List.mem_filterMap.1 (List.mem_of_getLast? last)
    have active : l = .active := active
    rw [active] at wrote
    exact absurd wrote (written_ne_active (override h mem) (committed h mem))

theorem written_enable_active {request : Enable.Request} {a : Activation}
    (wrote : written (.enable request, .enabled a) = some .active) : a.isRejected = false ∧ a.isOk = true := by
  simp only [written] at wrote
  split at wrote
  · cases wrote
  · rename_i kept
    split at wrote
    · rename_i ok
      exact ⟨Bool.eq_false_iff.2 kept, ok⟩
    · cases wrote

theorem exists_last {α β : Type} {f : α → Option β} {l : List α} {b : β} (h : (l.filterMap f).getLast? = some b) :
    ∃ before a after, l = before ++ a :: after ∧ f a = some b ∧ ∀ c ∈ after, f c = none := by
  induction l with
  | nil => cases h
  | cons a l ih =>
    rw [getLast?_filterMap_cons] at h
    cases last : (l.filterMap f).getLast? with
    | some c =>
      rw [last] at h
      cases h
      obtain ⟨before, d, after, rfl, found, silent⟩ := ih last
      exact ⟨a :: before, d, after, rfl, found, silent⟩
    | none =>
      rw [last] at h
      exact ⟨[], a, l, rfl, h, List.filterMap_eq_nil_iff.1 (List.getLast?_eq_none_iff.1 last)⟩

/-! ## Any run -/

/-- **A device is never enabled for nothing.** In any run of a valid configuration, over any driver:
- an enable that took the fallback ports attempted at least one port, and succeeded only if one came up;
- an enable that succeeded has grounds;
- if the device is active, and after an enable that committed its verdict there was neither another one nor an override
  to active, then that enable has grounds;
- an active device was made so by an override or by a committed enable, and no lifecycle was written since. -/
theorem enabled_on_grounds (c : Config.Agent) (valid : c.validate = .ok ()) (driver : Driver σ)
    (clock : Nat → Time.Timestamp) (start : σ) (n : Nat) (commands : List Command) :
    let run := fun commands => performAll (Service.setup driver clock c) n commands (.fresh start c.deviceId)
    let history := commands.zip (run commands).value
    history.map (·.1) = commands ∧
    (∀ before request r after, history = before ++ (.enable request, r) :: after →
      let m := (run (before.map (·.1))).managed
      ∃ a, r = .enabled a ∧
        (TookFallback a → a.ports ≠ [] ∧ (a.isOk = true → ∃ p ∈ a.ports, p.status = .success)) ∧
        (a.isOk = true → Grounds driver request m a) ∧
        (a.isRejected = false → (∀ h ∈ after, attempted h = none) → (∀ h ∈ after, h.1 ≠ .activate) →
          (run commands).managed.device.isActive = true → Grounds driver request m a)) ∧
    ((run commands).managed.device.isActive = true → ∃ before command r after,
      history = before ++ (command, r) :: after ∧ (∀ h ∈ after, written h = none) ∧
        (command = .activate ∨ ∃ request a, command = .enable request ∧ r = .enabled a ∧ a.isRejected = false ∧
          Grounds driver request (run (before.map (·.1))).managed a)) := by
  intro run history
  obtain ⟨-, ⟨positive, -⟩, -, -⟩ := c.validate_eq_ok_iff.1 valid
  refine ⟨List.map_fst_zip (Nat.le_of_eq (length_performAll_value ..).symm), ?_, ?_⟩
  · intro before request r after split m
    obtain ⟨value, managed, later⟩ := performAll_split split
    let a := (enable driver c.enable (clock (n + before.length)) request m).value
    obtain ⟨some', grounds⟩ := enable_grounds driver positive (clock (n + before.length)) request m
    refine ⟨a, value, fun fallback => ⟨some' fallback, fun ok => (grounds ok).of_fallback fallback⟩, grounds, ?_⟩
    intro kept committed override active
    rw [← later] at committed override
    have active := active_before override committed (managed ▸ beq_iff_eq.1 active)
    exact grounds (isOk_of_active kept active)
  · intro active
    have wrote := (performAll_device (Service.setup driver clock c) n commands (.fresh start c.deviceId)).1
    rw [beq_iff_eq.1 active] at wrote
    have last : (history.filterMap written).getLast? = some .active := by
      cases h : (history.filterMap written).getLast? with
      | none =>
        rw [h] at wrote
        cases wrote
      | some l =>
        rw [h] at wrote
        exact congrArg some wrote.symm
    obtain ⟨before, ⟨command, r⟩, after, split, wrote, silent⟩ := exists_last last
    refine ⟨before, command, r, after, split, silent, ?_⟩
    obtain ⟨value, -, -⟩ := performAll_split split
    match command with
    | .activate => exact .inl rfl
    | .enable request =>
      let m := (run (before.map (·.1))).managed
      have value : r = .enabled (enable driver c.enable (clock (n + before.length)) request m).value := value
      rw [value] at wrote
      obtain ⟨kept, ok⟩ := written_enable_active wrote
      exact .inr ⟨request, _, rfl, value, kept, (enable_grounds driver positive _ request m).2 ok⟩
    | .deactivate => cases wrote
    | .status => cases wrote
    | .shutdown => cases wrote

/-- the terminal is not connected, the only fallback port fails first and comes up at the second enable -/
theorem enabled_on_grounds_second :
    let script : Script := ⟨.ok, .notConnected, .blank, [.internal], .ok⟩
    let request : Enable.Request := ⟨0, none⟩
    let run := fun commands => performAll (Service.setup Scripted.driver (fun _ => .epoch) .standard) 1 commands
      (.fresh (.fresh script) Config.Agent.standard.deviceId)
    Config.Agent.standard.validate = .ok () ∧
    (run [.enable request]).managed.device.isActive = false ∧
    (run [.enable request, .enable request]).managed.device.isActive = true ∧
    ∃ a, (run [.enable request, .enable request]).value[1]? = some (.enabled a) ∧ TookFallback a ∧
      Grounds Scripted.driver request (run [.enable request]).managed a := by
  intro script request run
  have valid : Config.Agent.standard.validate = .ok () := rfl
  obtain ⟨-, each, -⟩ := enabled_on_grounds .standard valid Scripted.driver (fun _ => .epoch) (.fresh script) 1
    [.enable request, .enable request]
  obtain ⟨a, value, -, -, grounds⟩ := each [(.enable request, _)] request _ [] rfl
  cases value
  exact ⟨valid, rfl, rfl, _, rfl, .inl rfl, grounds rfl (List.forall_mem_nil _) (List.forall_mem_nil _) rfl⟩

end Daemon

end LineTerminal
