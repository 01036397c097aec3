/-
The audit trail of an enable.

`Trail` is the rule for the records that one enable leaves, each of them given whole. It is told from the result, from the
lifecycle that the enable led to, and from the answers of the driver to the activations:
- an enable that was given up before its ports leaves one record of a failure, about the requested device;
- any other leaves one record for each port that failed, in the order of the ports, with the text of its report and with
  whether the driver's error is retryable (`PortRecorded`), and none for a port that came up;
- its last record is the verdict: the details tell the result and the lifecycle (`Told`), and the outcome is a failure with
  the text of the result, a part of the work if some port failed, and otherwise a success (`Concluded`).
Every record carries the id of the request.

`enable_trail`: the records of every enable keep the rule, for every driver and any number of ports.
`attempt_records` has the same records as the enable makes them; it is what other theorems about records start from.
-/
import Mathlib.Algebra.Ring.Nat
import LineTerminal.Proofs.Enable.Verdict

namespace LineTerminal

open Log (records)
open Audit (Record)

variable {σ : Type}

/-- the number that a value of a text stands for, if it is a whole number from zero -/
def Json.natural? : Json → Option Nat
  | .number (.natural n) => some n.toNat
  | _ => none

theorem Json.natural?_count {n : Nat} (h : n < 2 ^ 64) : (Json.count n).natural? = some n := by
  simp only [count, natural, natural?, Nat.toUInt64_eq, UInt64.toNat_ofNat_of_lt' h]

theorem Json.natural?_word (n : UInt32) : (Json.word n).natural? = some n.toNat := by
  simp only [word, natural, natural?, UInt32.toNat_toUInt64]

namespace Enable

/-! ## The rule -/

def portAnswers (d : Driver σ) (request : Request) (m : Managed σ) (a : Activation) : List (Except DriverError Unit) :=
  d.activations m.device.olt (a.ports.map (·.pon)) (configAnswer d request m).state

/-- a port that failed, with its answer, and the record that it leaves -/
inductive PortRecorded (now : Time.Timestamp) (request : Request) (olt : OltId) :
    PortReport × Except DriverError Unit → Record → Prop where
  | intro (p : PortReport) (e : DriverError) (text : p.error = some e.message) :
    PortRecorded now request olt (p, .error e)
      { timestamp := now, category := .ponInterface, source := "OltOrch", action := "activate_pon", outcome := .failure
        objectId := some p.pon.text, objectType := some "pon_interface"
        details := some (.object [("olt", .word olt.raw), ("retryable", .bool e.isRetryable)])
        error := p.error, correlationId := requestIdOf request.context }

/-- details that tell a result and the lifecycle after it, and nothing else -/
structure Told (a : Activation) (l : Lifecycle) (details : Json) : Prop where
  discovery : details.member? "discovery" = a.discovery.map (fun source => .text source.name)
  attempted : (details.member? "pon_ports").bind Json.natural? = some a.ports.length
  succeeded : (details.member? "succeeded").bind Json.natural? = some a.succeeded
  failed : (details.member? "failed").bind Json.natural? = some a.failed
  lifecycle : details.member? "lifecycle" = some (.text l.name)
  nothingElse : ∀ name value, details.member? name = some value →
    name ∈ ["discovery", "pon_ports", "succeeded", "failed", "lifecycle"]

/-- the outcome and the error of the last record -/
inductive Concluded (a : Activation) : Audit.Outcome → Option String → Prop where
  | failed (h : a.isOk = false) : Concluded a .failure (some a.message)
  | partly (h : a.isOk = true) (lost : 0 < a.failed) : Concluded a .partly none
  | entirely (h : a.isOk = true) (complete : a.failed = 0) : Concluded a .success none

/-- the records of an enable with the result `a`, after which the lifecycle is `l` -/
inductive Trail (d : Driver σ) (now : Time.Timestamp) (request : Request) (m : Managed σ) (a : Activation) (l : Lifecycle) :
    List Record → Prop where
  | unknown (other : request.deviceId ≠ m.device.id)
      (error : a.error = some (.unknownDevice request.deviceId m.device.id)) :
    Trail d now request m a l
      [{ timestamp := now, category := .deviceActivation, source := "OltOrch", action := "enable", outcome := .failure
         objectId := some (toString request.deviceId.toNat), objectType := some "olt", details := none
         error := some a.message, correlationId := requestIdOf request.context }]
  | hostFailed (e : DriverError) (error : a.error = some (.hostInit e)) :
    Trail d now request m a l
      [{ timestamp := now, category := .balOperation, source := "OltOrch", action := "host_init", outcome := .failure
         objectId := some (toString request.deviceId.toNat), objectType := some "olt", details := none
         error := some e.message, correlationId := requestIdOf request.context }]
  | readFailed (e : DriverError) (error : a.error = some (.configRead e)) :
    Trail d now request m a l
      [{ timestamp := now, category := .balOperation, source := "OltOrch", action := "cfg_get", outcome := .failure
         objectId := some (toString request.deviceId.toNat), objectType := some "olt", details := none
         error := some a.message, correlationId := requestIdOf request.context }]
  | attempted (given : a.isRejected = false) (order : a.ports.map (·.pon.raw.toNat) = List.range a.ports.length)
      (failures : List Record)
      (each : List.Forall₂ (PortRecorded now request m.device.olt)
        ((a.ports.zip (portAnswers d request m a)).filter (·.1.status == .failed)) failures)
      (details : Json) (told : Told a l details)
      (outcome : Audit.Outcome) (error : Option String) (concluded : Concluded a outcome error) :
    Trail d now request m a l
      (failures
        ++ [{ timestamp := now, category := .deviceActivation, source := "OltOrch", action := "enable", outcome := outcome
              objectId := some (toString request.deviceId.toNat), objectType := some "olt", details := some details
              error := error, correlationId := requestIdOf request.context }])

/-! ## The records as they are made -/

/-- what a driver logs, and what is logged at the beginning, leaves no record -/
theorem records_begun (request : Request) (lines : List Log.Line) (log : List Log.Entry) :
    records (beginEntry request :: (lines.map .line ++ log)) = records log := by
  rw [records_beginEntry, Log.records_append, Log.records_lines, List.nil_append]

theorem records_discovered (lines : List Log.Line) (settings : EnableSettings) (olt : OltId)
    (answer : Except DriverError OltInfo) (log : List Log.Entry) :
    records (lines.map .line ++ discoverEntries settings olt answer ++ log) = records log := by
  rw [Log.records_append, Log.records_append, Log.records_lines, records_discoverEntries, List.nil_append, List.nil_append]

/-- the records of ports, one for each that failed -/
def portRecords (now : Time.Timestamp) (request : Request) (olt : OltId) (pons : List PonId)
    (answers : List (Except DriverError Unit)) : List Record :=
  (List.zipWith (fun pon answer => records (portEntries now request olt pon answer)) pons answers).flatten

theorem foldl_activatePort_records (d : Driver σ) (now : Time.Timestamp) (request : Request) (olt : OltId)
    (pons : List PonId) (w : Work σ (List PortReport)) :
    records (pons.foldl (activatePort d now request olt) w).log
      = records w.log ++ portRecords now request olt pons (d.activations olt pons w.managed.driver) := by
  induction pons generalizing w with
  | nil => simp [portRecords]
  | cons pon pons ih =>
    rw [List.foldl_cons, ih]
    simp [activatePort, Driver.activations, portRecords]

/-- **The records of attempted ports**: those of the ports, then the verdict. -/
theorem attempt_records (d : Driver σ) (now : Time.Timestamp) (request : Request) (found : Found) (m : Managed σ) :
    records (attempt d now request found m).log
      = portRecords now request m.device.olt (interfaces found.count)
          (d.activations m.device.olt (interfaces found.count) m.driver)
        ++ [verdictRecord now request found (attempt d now request found m).value
              (attempt d now request found m).managed.device.lifecycle] := by
  simp only [attempt, activatePorts, Log.records_append, foldl_activatePort_records, Log.records_nil, List.nil_append,
    records_verdictEntry, Log.records_audit]

/-! ## The ports -/

theorem portReport_pon (pon : PonId) (answer : Except DriverError Unit) : (portReport pon answer).pon = pon := by
  cases answer <;> rfl

/-- the reports are on the ports that were attempted -/
theorem map_pon_zipWith {pons : List PonId} {answers : List (Except DriverError Unit)}
    (h : answers.length = pons.length) : (List.zipWith portReport pons answers).map (·.pon) = pons := by
  induction pons generalizing answers with
  | nil => simp
  | cons pon pons ih =>
    cases answers with
    | nil => cases h
    | cons answer answers =>
      rw [List.zipWith_cons_cons, List.map_cons, portReport_pon, ih (Nat.succ.inj h)]

/-- **One record for each port that failed**, in the order of the ports, and none for the others. -/
theorem forall₂_portRecords (now : Time.Timestamp) (request : Request) (olt : OltId) (pons : List PonId)
    (answers : List (Except DriverError Unit)) :
    List.Forall₂ (PortRecorded now request olt)
      (((List.zipWith portReport pons answers).zip answers).filter (·.1.status == .failed))
      (portRecords now request olt pons answers) := by
  induction pons generalizing answers with
  | nil => exact .nil
  | cons pon pons ih =>
    cases answers with
    | nil => exact .nil
    | cons answer answers =>
      have rest := ih answers
      cases answer with
      | ok u => exact rest
      | error e =>
        have details : Json.ofMembers [("olt", .word olt.raw), ("retryable", .bool e.isRetryable)]
            = .object [("olt", .word olt.raw), ("retryable", .bool e.isRetryable)] := by
          have order : ¬"retryable" < "olt" := by decide
          have other : "retryable" ≠ "olt" := by decide
          simp only [Json.ofMembers, List.foldl_cons, List.foldl_nil, Json.insert, if_neg order, if_neg other]
        have first : PortRecorded now request olt (.failed pon e.message, .error e) (portRecord now request olt pon e) := by
          have recorded : PortRecorded now request olt (.failed pon e.message, .error e) _ := .intro _ e rfl
          rw [← details] at recorded
          exact recorded
        exact .cons first rest

/-! ## The verdict -/

theorem told_verdict {a : Activation} {found : Found} (l : Lifecycle) (discovery : a.discovery = some found.discovery)
    (length : a.ports.length = found.count.toNat) :
    Told a l (.ofMembers
      [("discovery", .text found.discovery.name), ("pon_ports", .word found.count), ("succeeded", .count a.succeeded),
       ("failed", .count a.failed), ("lifecycle", .text l.name)]) := by
  have size : a.ports.length < 2 ^ 64 := by
    have := found.count.toNat_lt
    omega
  have counts := a.succeeded_add_failed
  refine ⟨?_, ?_, ?_, ?_, ?_, ?_⟩
  · simp [Json.member?_ofMembers, discovery]
  · simp [Json.member?_ofMembers, Json.natural?_word, length]
  · have : a.succeeded < 2 ^ 64 := by omega
    simp [Json.member?_ofMembers, Json.natural?_count this]
  · have : a.failed < 2 ^ 64 := by omega
    simp [Json.member?_ofMembers, Json.natural?_count this]
  · simp [Json.member?_ofMembers]
  · intro name value h
    rw [Json.member?_ofMembers, Option.map_eq_some_iff] at h
    obtain ⟨m, hm, -⟩ := h
    have same := List.find?_some hm
    rw [beq_iff_eq] at same
    have mem := List.mem_map_of_mem (f := (·.1)) (List.mem_of_find?_eq_some hm)
    rw [same, List.map_reverse, List.mem_reverse] at mem
    exact mem

/-- the verdict is an error with the text of the result, or the outcome of a success -/
theorem verdictRecord_eq (now : Time.Timestamp) (request : Request) (found : Found) (a : Activation) (l : Lifecycle) :
    ∃ outcome error, Concluded a outcome error ∧
      verdictRecord now request found a l
        = { timestamp := now, category := .deviceActivation, source := "OltOrch", action := "enable", outcome := outcome
            objectId := some (toString request.deviceId.toNat), objectType := some "olt"
            details := some (.ofMembers
              [("discovery", .text found.discovery.name), ("pon_ports", .word found.count),
               ("succeeded", .count a.succeeded), ("failed", .count a.failed), ("lifecycle", .text l.name)])
            error := error, correlationId := requestIdOf request.context } := by
  cases h : a.error with
  | some e =>
    have failed : a.isOk = false := by rw [Activation.isOk, h]; rfl
    have message : a.message = e.message := by rw [Activation.message, h]
    refine ⟨.failure, some a.message, .failed failed, ?_⟩
    rw [message, verdictRecord, h]
    rfl
  | none =>
    have ok : a.isOk = true := by rw [Activation.isOk, h]; rfl
    refine ⟨outcome a, none, ?_, ?_⟩
    · by_cases failed : a.failed = 0
      · simpa [outcome, ok, failed] using Concluded.entirely ok failed
      · simpa [outcome, ok, failed] using Concluded.partly ok (Nat.pos_of_ne_zero failed)
    · rw [verdictRecord, h]
      rfl

/-! ## Main result -/

theorem trail_attempt (d : Driver σ) (now : Time.Timestamp) (request : Request) (found : Found) (m n : Managed σ)
    (device : n.device = m.device) (driver : n.driver = (configAnswer d request m).state) :
    Trail d now request m (attempt d now request found n).value (attempt d now request found n).managed.device.lifecycle
      (records (attempt d now request found n).log) := by
  have ports : (attempt d now request found n).value.ports = List.zipWith portReport (interfaces found.count)
      (d.activations m.device.olt (interfaces found.count) (configAnswer d request m).state) := by
    rw [attempt_value, device, driver]
    rfl
  have length := length_attempt_ports d now request found n
  have discovery : (attempt d now request found n).value.discovery = some found.discovery := by
    rw [attempt_value]
    rfl
  have given : (attempt d now request found n).value.isRejected = false := by
    rw [attempt_value, Activation.isRejected_ofPorts]
  rw [attempt_records, device, driver]
  generalize (attempt d now request found n).managed.device.lifecycle = l
  generalize (attempt d now request found n).value = a at ports length discovery given ⊢
  have pons : a.ports.map (·.pon) = interfaces found.count := by
    rw [ports, map_pon_zipWith (Driver.length_activations ..)]
  obtain ⟨outcome, error, concluded, record⟩ := verdictRecord_eq now request found a l
  rw [record]
  refine .attempted given ?_ _ ?_ _ (told_verdict l discovery length) outcome error concluded
  · have numbers := interfaces_numbers found.count
    rw [← pons, List.map_map] at numbers
    rw [length]
    exact numbers
  · rw [portAnswers, pons, ports]
    exact forall₂_portRecords ..

/-- **The audit trail of an enable.** For every driver, every settings, every device and every request. -/
theorem enable_trail (d : Driver σ) (settings : EnableSettings) (now : Time.Timestamp) (request : Request)
    (m : Managed σ) :
    Trail d now request m (enable d settings now request m).value
      (enable d settings now request m).managed.device.lifecycle (records (enable d settings now request m).log) := by
  have course := enable_course d settings now request m
  generalize enable d settings now request m = v at course ⊢
  cases course with
  | unknown other => exact .unknown other rfl
  | hostFailed known e host =>
    rw [records_begun]
    exact .hostFailed e rfl
  | readFailed known host e read =>
    obtain ⟨cause, rfl, -⟩ := configRead_of_discover read
    rw [records_begun, records_discovered]
    exact .readFailed cause rfl
  | attempted known host found read w ports =>
    rw [records_begun, records_discovered]
    subst ports
    exact trail_attempt d now request found m _ rfl rfl

end Enable

end LineTerminal
