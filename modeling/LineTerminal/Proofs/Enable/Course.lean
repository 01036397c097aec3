/-
The course of an enable.

`Course` lists the four ways an enable can go, each with everything it leaves behind: another device was meant, the host
side did not come up, the configuration could not be read, or the ports were attempted. `enable_course` says that there is
no other way; what holds of every enable is proved from it, case by case.

The loop over the ports is described apart from the rest:
- `activations` are the answers of a driver that is asked to activate interfaces one after another;
- `activatePorts_value`, `activatePorts_calls`: the loop makes one report for each answer, and one call for each
  interface, whatever the answers are;
- `activatePorts_device`: it leaves the device alone.
-/
import LineTerminal.Proofs.Driver.Simulation

namespace LineTerminal

variable {σ : Type}

/-- the answers of a driver that is asked to activate interfaces one after another -/
def Driver.activations (d : Driver σ) (olt : OltId) : List PonId → σ → List (Except DriverError Unit)
  | [], _ => []
  | pon :: pons, s =>
    let a := d.submit olt (.activatePon pon) s
    a.outcome :: d.activations olt pons a.state

theorem Driver.length_activations (d : Driver σ) (olt : OltId) (pons : List PonId) (s : σ) :
    (d.activations olt pons s).length = pons.length := by
  induction pons generalizing s with
  | nil => rfl
  | cons pon pons ih => simp only [Driver.activations, List.length_cons, ih]

theorem Driver.activations_journaled (d : Driver σ) (olt : OltId) (pons : List PonId) (j : Journaled σ) :
    d.journaled.activations olt pons j = d.activations olt pons j.state := by
  induction pons generalizing j with
  | nil => rfl
  | cons pon pons ih => simp only [Driver.activations, ih]; rfl

namespace Enable

/-- how the driver answers when it is asked to bring the host side up -/
def hostAnswer (d : Driver σ) (request : Request) (m : Managed σ) : Answer σ Unit := d.hostInit request.context m.driver

/-- how the driver then answers when it is asked for the configuration -/
def configAnswer (d : Driver σ) (request : Request) (m : Managed σ) : Answer σ OltInfo :=
  d.readConfig m.device.olt (hostAnswer d request m).state

/-! ## The four ways -/

/-- the ways an enable can go, with what it leaves behind -/
inductive Course (d : Driver σ) (settings : EnableSettings) (now : Time.Timestamp) (request : Request) (m : Managed σ) :
    Work σ Activation → Prop where
  /-- another device was meant -/
  | unknown (other : request.deviceId ≠ m.device.id) :
    Course d settings now request m
      ⟨.rejected (.unknownDevice request.deviceId m.device.id),
       { m with counters := m.counters.countAttempt },
       beginEntry request :: unknownEntries now request (.unknownDevice request.deviceId m.device.id)⟩
  /-- the host side did not come up -/
  | hostFailed (known : request.deviceId = m.device.id) (e : DriverError)
      (host : (hostAnswer d request m).outcome = .error e) :
    Course d settings now request m
      ⟨.rejected (.hostInit e),
       ⟨(hostAnswer d request m).state, m.device, m.counters.countAttempt.countHostInitFailure⟩,
       beginEntry request :: ((hostAnswer d request m).lines.map .line ++ hostInitEntries now request e)⟩
  /-- the configuration could not be read, and that is fatal -/
  | readFailed (known : request.deviceId = m.device.id) (host : (hostAnswer d request m).outcome = .ok ())
      (e : EnableError) (read : discover settings (configAnswer d request m).outcome = .error e) :
    Course d settings now request m
      ⟨.rejected e,
       ⟨(configAnswer d request m).state, m.device, m.counters.countAttempt⟩,
       beginEntry request :: ((hostAnswer d request m).lines.map .line ++ ((configAnswer d request m).lines.map .line
         ++ discoverEntries settings m.device.olt (configAnswer d request m).outcome
         ++ [.audit (readFailedRecord now request e)]))⟩
  /-- the ports were attempted -/
  | attempted (known : request.deviceId = m.device.id) (host : (hostAnswer d request m).outcome = .ok ())
      (found : Found) (read : discover settings (configAnswer d request m).outcome = .ok found)
      (w : Work σ Activation)
      (ports : w = attempt d now request found
        ⟨(configAnswer d request m).state, m.device, found.counted m.counters.countAttempt⟩) :
    Course d settings now request m
      ⟨w.value, w.managed,
       beginEntry request :: ((hostAnswer d request m).lines.map .line ++ ((configAnswer d request m).lines.map .line
         ++ discoverEntries settings m.device.olt (configAnswer d request m).outcome ++ w.log))⟩

/-- **Every enable goes one of the four ways.** -/
theorem enable_course (d : Driver σ) (settings : EnableSettings) (now : Time.Timestamp) (request : Request)
    (m : Managed σ) : Course d settings now request m (enable d settings now request m) := by
  by_cases known : request.deviceId = m.device.id
  · cases host : (hostAnswer d request m).outcome with
    | error e =>
      have course : Course d settings now request m _ := .hostFailed known e host
      unfold hostAnswer at host
      simp only [enable, bringUp, if_pos known, host]
      exact course
    | ok u =>
      cases read : discover settings (configAnswer d request m).outcome with
      | error e =>
        have course : Course d settings now request m _ := .readFailed known host e read
        unfold configAnswer at read
        unfold hostAnswer at host read
        simp only [enable, bringUp, discoverAndAttempt, if_pos known, host, read]
        exact course
      | ok found =>
        have course : Course d settings now request m _ := .attempted known host found read _ rfl
        unfold configAnswer at read
        unfold hostAnswer at host read
        simp only [enable, bringUp, discoverAndAttempt, if_pos known, host, read]
        exact course
  · simp only [enable, if_neg known]
    exact .unknown known

/-- a failed read is the only reason to give up while the ports are looked for -/
theorem configRead_of_discover {settings : EnableSettings} {answer : Except DriverError OltInfo} {e : EnableError}
    (h : discover settings answer = .error e) :
    ∃ cause, e = .configRead cause ∧ answer = .error cause ∧ cause ≠ .notConnected ∧ settings.policy = .fatal := by
  cases answer with
  | ok info => cases h
  | error cause =>
    simp only [discover] at h
    split at h
    · cases h
    · rename_i hn
      split at h
      · cases h
      · rename_i policy
        cases h
        exact ⟨cause, rfl, rfl, fun hc => hn ((cause.isNotConnected_iff).2 hc), policy⟩

/-! ## The loop over the ports -/

theorem foldl_activatePort_value (d : Driver σ) (now : Time.Timestamp) (request : Request) (olt : OltId)
    (pons : List PonId) (w : Work σ (List PortReport)) :
    (pons.foldl (activatePort d now request olt) w).value
      = w.value ++ List.zipWith portReport pons (d.activations olt pons w.managed.driver) := by
  induction pons generalizing w with
  | nil => simp [Driver.activations]
  | cons pon pons ih =>
    rw [List.foldl_cons, ih]
    simp [activatePort, Driver.activations]

theorem foldl_activatePort_device (d : Driver σ) (now : Time.Timestamp) (request : Request) (olt : OltId)
    (pons : List PonId) (w : Work σ (List PortReport)) :
    (pons.foldl (activatePort d now request olt) w).managed.device = w.managed.device := by
  induction pons generalizing w with
  | nil => rfl
  | cons pon pons ih => rw [List.foldl_cons, ih]; rfl

theorem foldl_activatePort_calls (d : Driver σ) (now : Time.Timestamp) (request : Request) (olt : OltId)
    (pons : List PonId) (w : Work (Journaled σ) (List PortReport)) :
    (pons.foldl (activatePort d.journaled now request olt) w).managed.driver.calls
      = w.managed.driver.calls ++ pons.map (fun pon => .submit olt (.activatePon pon)) := by
  induction pons generalizing w with
  | nil => simp
  | cons pon pons ih =>
    rw [List.foldl_cons, ih]
    simp [activatePort, Driver.journaled, Driver.note]

theorem activatePorts_value (d : Driver σ) (now : Time.Timestamp) (request : Request) (olt : OltId) (count : UInt32)
    (m : Managed σ) :
    (activatePorts d now request olt count m).value
      = List.zipWith portReport (interfaces count) (d.activations olt (interfaces count) m.driver) := by
  rw [activatePorts, foldl_activatePort_value, List.nil_append]

theorem activatePorts_device (d : Driver σ) (now : Time.Timestamp) (request : Request) (olt : OltId) (count : UInt32)
    (m : Managed σ) : (activatePorts d now request olt count m).managed.device = m.device :=
  foldl_activatePort_device d now request olt (interfaces count) ⟨[], m, []⟩

theorem activatePorts_calls (d : Driver σ) (now : Time.Timestamp) (request : Request) (olt : OltId) (count : UInt32)
    (m : Managed (Journaled σ)) :
    (activatePorts d.journaled now request olt count m).managed.driver.calls
      = m.driver.calls ++ (interfaces count).map (fun pon => .submit olt (.activatePon pon)) :=
  foldl_activatePort_calls d now request olt (interfaces count) ⟨[], m, []⟩

theorem interfaces_numbers (n : UInt32) : (interfaces n).map (·.raw.toNat) = List.range n.toNat := by
  apply List.ext_getElem
  · simp [interfaces]
  · intro i h1 h2
    have hi : i < n.toNat := by simpa using h2
    have hn : n.toNat < 2 ^ 32 := n.toNat_lt
    simp only [interfaces, List.map_map, List.getElem_map, List.getElem_range, Function.comp_apply]
    exact UInt32.toNat_ofNat_of_lt' (by show i < 2 ^ 32; omega)

theorem length_interfaces (n : UInt32) : (interfaces n).length = n.toNat := by simp [interfaces]

/-! ## What an attempt on the ports leaves behind -/

theorem attempt_value (d : Driver σ) (now : Time.Timestamp) (request : Request) (found : Found) (m : Managed σ) :
    (attempt d now request found m).value
      = .ofPorts (List.zipWith portReport (interfaces found.count)
          (d.activations m.device.olt (interfaces found.count) m.driver)) found.discovery := by
  rw [attempt, activatePorts_value]

theorem attempt_device (d : Driver σ) (now : Time.Timestamp) (request : Request) (found : Found) (m : Managed σ) :
    (attempt d now request found m).managed.device
      = m.device.commit now (attempt d now request found m).value.isOk found.count := by
  simp only [attempt, activatePorts_device]

theorem length_attempt_ports (d : Driver σ) (now : Time.Timestamp) (request : Request) (found : Found) (m : Managed σ) :
    (attempt d now request found m).value.ports.length = found.count.toNat := by
  simp [attempt_value, Activation.ofPorts, Driver.length_activations, length_interfaces]

theorem attempt_calls (d : Driver σ) (now : Time.Timestamp) (request : Request) (found : Found)
    (m : Managed (Journaled σ)) :
    (attempt d.journaled now request found m).managed.driver.calls
      = m.driver.calls ++ (interfaces found.count).map (fun pon => .submit m.device.olt (.activatePon pon)) := by
  simp only [attempt, activatePorts_calls]

end Enable

end LineTerminal
