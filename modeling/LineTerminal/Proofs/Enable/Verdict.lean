/-
The result of an enable, seen from all its sides.

A result has an error, the reports on the ports and the place the number of ports came from; clients also ask it for a
verdict, two counts, a text, and the ports of a success. Each of these is computed by itself. `Coherent` says how they
hang together, and what the device record has to do with them:
- no port was looked for exactly when the enable was given up for one of three reasons, and then there is no report;
- otherwise one port that came up makes a success, and so does having no port, and the only failure is that no port came
  up, with the number of reports as it is recorded for the device;
- a report has a text exactly when its port failed, and every report is counted once;
- the text of the result is empty, and its ports can be had, exactly when it is a success.

`enable_coherent`: so it is with every enable, for every driver and any number of ports that fits in a word.
-/
import LineTerminal.Proofs.Enable.Course

namespace LineTerminal

variable {σ : Type}

/-- the sides of a result agree, with each other and with the record of the device -/
structure Activation.Coherent (a : Activation) (d : Device) : Prop where
  /-- no port was looked for -/
  discovery : a.discovery = none ↔
    (∃ requested managed, a.error = some (.unknownDevice requested managed))
      ∨ (∃ e, a.error = some (.hostInit e)) ∨ ∃ e, a.error = some (.configRead e)
  unattempted : a.discovery = none → a.ports = []
  /-- one port is enough -/
  ok : a.discovery ≠ none → (a.isOk = true ↔ a.ports = [] ∨ ∃ p ∈ a.ports, p.status = .success)
  /-- no port came up: the error and the record have the number of the attempted ports -/
  allFailed : a.discovery ≠ none → a.isOk = false → ∃ n : UInt32,
    a.error = some (.allPortsFailed n) ∧ n.toNat = a.ports.length ∧ d.ponPorts = some n
  texts : ∀ p ∈ a.ports, p.error.isSome = true ↔ p.status = .failed
  failed : a.failed = a.ports.countP (·.status == .failed)
  counts : a.succeeded + a.failed = a.ports.length
  message : a.message = "" ↔ a.isOk = true
  result : ∀ ports, a.result = .ok ports ↔ a.isOk = true ∧ ports = a.ports

/-! ## Reports -/

theorem PortReport.isSuccess_iff (p : PortReport) : p.isSuccess = true ↔ p.status = .success := beq_iff_eq

theorem PortReport.isSuccess_eq_false_iff (p : PortReport) : p.isSuccess = false ↔ p.status = .failed := by
  unfold isSuccess
  cases p.status <;> decide

/-- a report has a text exactly when its port failed -/
theorem Enable.portReport_error (pon : PonId) (answer : Except DriverError Unit) :
    (portReport pon answer).error.isSome = true ↔ (portReport pon answer).status = .failed := by
  cases answer with
  | ok u => exact ⟨nofun, nofun⟩
  | error e => exact ⟨fun _ => rfl, fun _ => rfl⟩

/-! ## The verdict -/

theorem verdict_eq_none_iff (ports : List PortReport) :
    verdict ports = none ↔ ports = [] ∨ ∃ p ∈ ports, p.status = .success := by
  have hcond : (ports.isEmpty || ports.any (·.isSuccess)) = true ↔ ports = [] ∨ ∃ p ∈ ports, p.status = .success := by
    simp only [Bool.or_eq_true, List.isEmpty_iff, List.any_eq_true, PortReport.isSuccess_iff]
  rw [← hcond]
  unfold verdict
  split
  · rename_i h
    exact ⟨fun _ => h, fun _ => rfl⟩
  · rename_i h
    exact ⟨nofun, fun hc => absurd hc h⟩

/-- the error of attempted ports has their number; a list of ports is never too long for it -/
theorem verdict_eq_some {ports : List PortReport} {count : UInt32} (length : ports.length = count.toNat)
    (h : verdict ports ≠ none) : verdict ports = some (.allPortsFailed count) := by
  have hcount : ports.length.toUInt32 = count := by rw [length]; exact UInt32.ofNat_toNat
  unfold verdict at h ⊢
  split at h
  · exact absurd rfl h
  · rename_i hc
    rw [if_neg hc, hcount]

/-! ## Any result -/

theorem EnableError.message_ne_empty (e : EnableError) : e.message ≠ "" := by
  have append : ∀ {s t : String}, s ≠ "" → s ++ t ≠ "" := fun hs h => hs (String.append_eq_empty_iff.1 h).1
  cases e with
  | unknownDevice requested managed => exact append (append (append (append (by decide))))
  | hostInit cause => exact append (by decide)
  | configRead cause => exact append (by decide)
  | allPortsFailed attempted => exact append (append (by decide))

namespace Activation

theorem isRejected_iff (a : Activation) : a.isRejected = true ↔
    (∃ requested managed, a.error = some (.unknownDevice requested managed))
      ∨ (∃ e, a.error = some (.hostInit e)) ∨ ∃ e, a.error = some (.configRead e) := by
  unfold isRejected
  cases a.error with
  | none => simp
  | some e => cases e <;> simp

theorem succeeded_add_failed (a : Activation) : a.succeeded + a.failed = a.ports.length :=
  Nat.add_sub_cancel' List.countP_le_length

/-- the reports that are not on a port that came up are those on a port that failed -/
theorem failed_eq_countP (a : Activation) : a.failed = a.ports.countP (·.status == .failed) := by
  have hsplit := a.ports.length_eq_countP_add_countP (·.isSuccess)
  have hother : a.ports.countP (fun p => decide ¬p.isSuccess = true) = a.ports.countP (·.status == .failed) := by
    refine List.countP_congr fun p _ => ?_
    rw [decide_eq_true_iff, Bool.not_eq_true, p.isSuccess_eq_false_iff, beq_iff_eq]
  rw [hother] at hsplit
  unfold failed succeeded
  omega

theorem message_eq_empty_iff (a : Activation) : a.message = "" ↔ a.isOk = true := by
  unfold message isOk
  cases a.error with
  | none => exact ⟨fun _ => rfl, fun _ => rfl⟩
  | some e => exact ⟨fun h => absurd h e.message_ne_empty, nofun⟩

theorem result_eq_ok_iff (a : Activation) (ports : List PortReport) :
    a.result = .ok ports ↔ a.isOk = true ∧ ports = a.ports := by
  unfold result isOk
  cases a.error with
  | none => exact ⟨fun h => by cases h; exact ⟨rfl, rfl⟩, fun h => by rw [h.2]⟩
  | some e => exact ⟨nofun, fun h => nomatch h.1⟩

/-- a result that is given up before the ports, for one of the three reasons -/
theorem coherent_rejected {e : EnableError} {d : Device} (reason : (rejected e).isRejected = true) :
    (rejected e).Coherent d where
  discovery := ⟨fun _ => (isRejected_iff _).1 reason, fun _ => rfl⟩
  unattempted _ := rfl
  ok h := absurd rfl h
  allFailed h := absurd rfl h
  texts := nofun
  failed := failed_eq_countP _
  counts := succeeded_add_failed _
  message := message_eq_empty_iff _
  result := result_eq_ok_iff _

/-- a result of attempted ports, with the number of them on record -/
theorem coherent_ofPorts {ports : List PortReport} {count : UInt32} {d : Device} (discovery : Discovery)
    (length : ports.length = count.toNat) (recorded : d.ponPorts = some count)
    (texts : ∀ p ∈ ports, p.error.isSome = true ↔ p.status = .failed) : (ofPorts ports discovery).Coherent d where
  discovery := by
    refine ⟨nofun, fun h => ?_⟩
    have given := (isRejected_iff (ofPorts ports discovery)).2 h
    rw [isRejected_ofPorts] at given
    cases given
  unattempted := nofun
  ok _ := Option.isNone_iff_eq_none.trans (verdict_eq_none_iff ports)
  allFailed _ h := by
    have hv : verdict ports ≠ none := by
      intro hn
      rw [isOk, ofPorts, hn] at h
      cases h
    exact ⟨count, verdict_eq_some length hv, length.symm, recorded⟩
  texts := texts
  failed := failed_eq_countP _
  counts := succeeded_add_failed _
  message := message_eq_empty_iff _
  result := result_eq_ok_iff _

end Activation

/-! ## Every enable -/

/-- every report of an attempt has a text exactly when its port failed -/
theorem Enable.attempt_texts (d : Driver σ) (now : Time.Timestamp) (request : Request) (found : Found) (m : Managed σ) :
    ∀ p ∈ (attempt d now request found m).value.ports, p.error.isSome = true ↔ p.status = .failed := by
  intro p hp
  rw [attempt_value] at hp
  obtain ⟨i, hi⟩ := List.mem_iff_getElem?.1 hp
  rw [Activation.ofPorts, List.getElem?_zipWith_eq_some] at hi
  obtain ⟨pon, answer, -, -, rfl⟩ := hi
  exact portReport_error pon answer

theorem Enable.attempt_eq_ofPorts (d : Driver σ) (now : Time.Timestamp) (request : Request) (found : Found)
    (m : Managed σ) :
    (attempt d now request found m).value = .ofPorts (attempt d now request found m).value.ports found.discovery := by
  rw [attempt_value]
  rfl

/-- **All sides of a result agree.** For every driver, every settings, every device and every request, the result of the
enable is coherent, with itself and with the device that the enable leaves behind. -/
theorem enable_coherent (d : Driver σ) (settings : EnableSettings) (now : Time.Timestamp) (request : Enable.Request)
    (m : Managed σ) :
    (enable d settings now request m).value.Coherent (enable d settings now request m).managed.device := by
  have course := Enable.enable_course d settings now request m
  generalize enable d settings now request m = v at course ⊢
  cases course with
  | unknown other => exact Activation.coherent_rejected rfl
  | hostFailed known e host => exact Activation.coherent_rejected rfl
  | readFailed known host e read =>
    obtain ⟨cause, rfl, -⟩ := Enable.configRead_of_discover read
    exact Activation.coherent_rejected rfl
  | attempted known host found read w ports =>
    have length : w.value.ports.length = found.count.toNat := by rw [ports, Enable.length_attempt_ports]
    have recorded : w.managed.device.ponPorts = some found.count := by
      rw [ports, Enable.attempt_device, Device.commit, Device.setLifecycle_ponPorts]
    have texts := ports ▸ Enable.attempt_texts d now request found _
    have value : w.value = .ofPorts w.value.ports found.discovery := ports ▸ Enable.attempt_eq_ofPorts ..
    show w.value.Coherent w.managed.device
    rw [value]
    exact Activation.coherent_ofPorts found.discovery length recorded texts

end LineTerminal
