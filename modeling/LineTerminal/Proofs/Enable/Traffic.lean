/-
The driver calls of an enable.

`Traffic` is the rule, told from the answers of the driver alone: a driver is any state machine, so an answer may depend on
every call before it.
- nothing is called for another device;
- only the host side is called if it does not come up;
- the configuration is read next, and a failure other than "not connected" ends the enable there if it is fatal;
- otherwise the interfaces `0, 1, …, n - 1` are activated in that order, each of them once and whatever became of the ones
  before, where `n` is the number that was reported or else the fallback (`Attempts`).
There is one report for each activation, in the same order, and it repeats the answer (`Reported`).

`enable_traffic`: the journal of every enable, and the ports of its result, follow the rule.
-/
import LineTerminal.Proofs.Enable.Course

namespace LineTerminal.Enable

variable {σ : Type}

/-- so many ports are attempted after a configuration read with this answer -/
inductive Attempts (settings : EnableSettings) : Except DriverError OltInfo → UInt32 → Prop where
  | reported (info : OltInfo) : Attempts settings (.ok info) info.ponPorts
  | notConnected : Attempts settings (.error .notConnected) settings.fallbackPonPorts
  | tolerated (e : DriverError) (policy : settings.policy = .fallback) :
    Attempts settings (.error e) settings.fallbackPonPorts

/-- a report on the `i`-th port repeats the answer to its activation -/
structure Reported (i : Nat) (answer : Except DriverError Unit) (p : PortReport) : Prop where
  index : p.pon.raw.toNat = i
  success : p.isSuccess = true ↔ answer = .ok ()
  error : ∀ e, answer = .error e → p.error = some e.message

/-- the calls of an enable, and the reports on its ports -/
inductive Traffic (d : Driver σ) (settings : EnableSettings) (request : Request) (m : Managed σ) :
    List Call → List PortReport → Prop where
  | unknown (other : request.deviceId ≠ m.device.id) : Traffic d settings request m [] []
  | hostFailed (known : request.deviceId = m.device.id) (e : DriverError)
      (host : (hostAnswer d request m).outcome = .error e) :
    Traffic d settings request m [.hostInit request.correlationId] []
  | readFailed (known : request.deviceId = m.device.id) (host : (hostAnswer d request m).outcome = .ok ())
      (e : DriverError) (read : (configAnswer d request m).outcome = .error e) (other : e ≠ .notConnected)
      (policy : settings.policy = .fatal) :
    Traffic d settings request m [.hostInit request.correlationId, .readConfig m.device.olt] []
  | attempted (known : request.deviceId = m.device.id) (host : (hostAnswer d request m).outcome = .ok ())
      (n : UInt32) (count : Attempts settings (configAnswer d request m).outcome n)
      (pons : List PonId) (order : pons.map (·.raw.toNat) = List.range n.toNat)
      (ports : List PortReport) (length : ports.length = n.toNat)
      (reports : ∀ i answer p, (d.activations m.device.olt pons (configAnswer d request m).state)[i]? = some answer →
        ports[i]? = some p → Reported i answer p) :
    Traffic d settings request m
      (.hostInit request.correlationId :: .readConfig m.device.olt
        :: pons.map (fun pon => .submit m.device.olt (.activatePon pon))) ports

theorem reported_portReport (pon : PonId) (answer : Except DriverError Unit) :
    Reported pon.raw.toNat answer (portReport pon answer) := by
  cases answer with
  | ok u =>
    refine ⟨rfl, ?_, ?_⟩
    · simp [portReport, PortReport.succeeded, PortReport.isSuccess]
    · simp
  | error e =>
    refine ⟨rfl, ?_, ?_⟩
    · simp [portReport, PortReport.failed, PortReport.isSuccess]
    · simp [portReport, PortReport.failed]

theorem attempts_of_discover {settings : EnableSettings} {answer : Except DriverError OltInfo} {found : Found}
    (h : discover settings answer = .ok found) : Attempts settings answer found.count := by
  cases answer with
  | ok info => cases h; exact .reported info
  | error e =>
    simp only [discover] at h
    split at h
    · rename_i hn
      cases h
      rw [(e.isNotConnected_iff).1 hn]
      exact .notConnected
    · split at h
      · cases h; exact .tolerated e (by assumption)
      · cases h

theorem reports_of_zipWith (pons : List PonId) (answers : List (Except DriverError Unit))
    {n : Nat} (order : pons.map (·.raw.toNat) = List.range n) (i : Nat) (answer : Except DriverError Unit) (p : PortReport)
    (ha : answers[i]? = some answer) (hp : (List.zipWith portReport pons answers)[i]? = some p) :
    Reported i answer p := by
  rw [List.getElem?_zipWith_eq_some] at hp
  obtain ⟨pon, answer', hpon, ha', rfl⟩ := hp
  rw [ha] at ha'
  cases ha'
  have hi : (pons.map (·.raw.toNat))[i]? = some pon.raw.toNat := by rw [List.getElem?_map, hpon]; rfl
  rw [order] at hi
  have hpi : pon.raw.toNat = i := by
    obtain ⟨hlt, heq⟩ := List.getElem?_eq_some_iff.1 hi
    rw [← heq, List.getElem_range]
  rw [← hpi]
  exact reported_portReport pon answer

/-- the rule over a driver with a journal -/
theorem journaled_traffic (d : Driver σ) (settings : EnableSettings) (now : Time.Timestamp) (request : Request)
    (m : Managed σ) :
    Traffic d settings request m (enable d.journaled settings now request m.journaled).managed.driver.calls
      (enable d.journaled settings now request m.journaled).value.ports := by
  have course := enable_course d.journaled settings now request m.journaled
  generalize enable d.journaled settings now request m.journaled = v at course ⊢
  cases course with
  | unknown other => exact .unknown other
  | hostFailed known e host => exact .hostFailed known e host
  | readFailed known host e read =>
    obtain ⟨cause, -, hcause, hother, hpolicy⟩ := configRead_of_discover read
    exact .readFailed known host cause hcause hother hpolicy
  | attempted known host found read w ports =>
    have hcalls : w.managed.driver.calls = .hostInit request.correlationId :: .readConfig m.device.olt
        :: (interfaces found.count).map (fun pon => .submit m.device.olt (.activatePon pon)) := by
      rw [ports, attempt_calls]; rfl
    have hports : w.value.ports = List.zipWith portReport (interfaces found.count)
        (d.activations m.device.olt (interfaces found.count) (configAnswer d request m).state) := by
      rw [ports, attempt_value, Driver.activations_journaled]; rfl
    show Traffic d settings request m w.managed.driver.calls w.value.ports
    rw [hcalls]
    refine Traffic.attempted (d := d) (m := m) known host found.count (attempts_of_discover read) _
      (interfaces_numbers _) _ ?_ ?_
    · rw [ports, length_attempt_ports]
    · rw [hports]
      exact reports_of_zipWith _ _ (interfaces_numbers _)

/-- **The driver calls of an enable.** For every driver, every settings, every device and every request: what the enable
calls, in order, and what it reports on the ports. -/
theorem enable_traffic (d : Driver σ) (settings : EnableSettings) (now : Time.Timestamp) (request : Request)
    (m : Managed σ) :
    Traffic d settings request m (enable d.journaled settings now request m.journaled).managed.driver.calls
      (enable d settings now request m).value.ports := by
  have hv := (enable_alike (journaled_alike d) settings now request m.journaled_alike).value
  rw [← hv]
  exact journaled_traffic d settings now request m

end LineTerminal.Enable
