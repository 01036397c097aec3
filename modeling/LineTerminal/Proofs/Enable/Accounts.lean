/-
The counters as an account of the results.

One driver and one set of counters serve any number of enables, and each enable is lent a device record (`Loan`). A tally
counts in the results of such a run what the counters stand for: the enables, those that succeeded, those that could not
bring the host side up, those that took the fallback ports, and the ports that failed.
- `enable_counters`: one enable adds the tally of its result to the counters, in words of 64 bits;
- `enableAll_counters`: so does a run of any length;
- `succeeded_add_hostInitFailures_le`: no result is counted both as a success and as a failure of the host side;
- `tally_fits`: at most 2^32 results of fewer than 2^32 ports each have counts that fit in a word.

`counters_account`: a run that starts at zero ends with the tally of its results, and as long as the tally fits in words of
64 bits the counters read as exact numbers. After at most 2^32 enables it does fit, so no counter has overflowed.
-/
import Mathlib.Algebra.BigOperators.Group.List.Basic
import Mathlib.Algebra.Ring.Nat
import LineTerminal.Driver.Scripted
import LineTerminal.Proofs.Enable.Verdict

namespace LineTerminal

variable {σ : Type}

/-! ## What is counted -/

namespace Activation

def failedHostInit (a : Activation) : Bool :=
  match a.error with
  | some (.hostInit _) => true
  | _ => false

def fellBack (a : Activation) : Bool :=
  match a.discovery with
  | some .notConnectedFallback | some .errorFallback => true
  | _ => false

end Activation

structure Tally where
  attempts : Nat
  succeeded : Nat
  hostInitFailures : Nat
  fallbacks : Nat
  portFailures : Nat

/-- count in results what the counters stand for -/
def tally (results : List Activation) : Tally where
  attempts := results.length
  succeeded := results.countP (·.isOk)
  hostInitFailures := results.countP (·.failedHostInit)
  fallbacks := results.countP (·.fellBack)
  portFailures := (results.map (·.failed)).sum

def Tally.add (t u : Tally) : Tally where
  attempts := t.attempts + u.attempts
  succeeded := t.succeeded + u.succeeded
  hostInitFailures := t.hostInitFailures + u.hostInitFailures
  fallbacks := t.fallbacks + u.fallbacks
  portFailures := t.portFailures + u.portFailures

theorem tally_cons (a : Activation) (results : List Activation) :
    tally (a :: results) = (tally [a]).add (tally results) := by
  simp only [tally, Tally.add, List.countP_cons, List.countP_nil, List.map_cons, List.map_nil, List.sum_cons, List.sum_nil,
    List.length_cons, List.length_nil, Nat.add_comm, Nat.zero_add]

/-- counters with a tally added to them, as words -/
def Counters.plus (c : Counters) (t : Tally) : Counters where
  attempts := c.attempts + t.attempts.toUInt64
  succeeded := c.succeeded + t.succeeded.toUInt64
  hostInitFailures := c.hostInitFailures + t.hostInitFailures.toUInt64
  fallbacks := c.fallbacks + t.fallbacks.toUInt64
  portFailures := c.portFailures + t.portFailures.toUInt64

theorem Counters.plus_add (c : Counters) (t u : Tally) : c.plus (t.add u) = (c.plus t).plus u := by
  simp only [plus, Tally.add, Nat.toUInt64_eq, UInt64.ofNat_add, UInt64.add_assoc]

/-- a tally whose counts fit in words of 64 bits -/
structure Tally.Fits (t : Tally) : Prop where
  attempts : t.attempts < 2 ^ 64
  succeeded : t.succeeded < 2 ^ 64
  hostInitFailures : t.hostInitFailures < 2 ^ 64
  fallbacks : t.fallbacks < 2 ^ 64
  portFailures : t.portFailures < 2 ^ 64

/-- counters that read as the numbers of a tally, in the order that these have -/
structure Counters.Exact (c : Counters) (t : Tally) : Prop where
  attempts : c.attempts.toNat = t.attempts
  succeeded : c.succeeded.toNat = t.succeeded
  hostInitFailures : c.hostInitFailures.toNat = t.hostInitFailures
  fallbacks : c.fallbacks.toNat = t.fallbacks
  portFailures : c.portFailures.toNat = t.portFailures
  fallbacks_le : c.fallbacks.toNat ≤ c.attempts.toNat
  /-- so each of the two is at most the number of enables -/
  apart : c.succeeded.toNat + c.hostInitFailures.toNat ≤ c.attempts.toNat

/-! ## The counts of results -/

/-- no result is a success and a failure of the host side -/
theorem succeeded_add_hostInitFailures_le (results : List Activation) :
    (tally results).succeeded + (tally results).hostInitFailures ≤ (tally results).attempts := by
  have apart : results.countP (·.failedHostInit) ≤ results.countP (fun a => decide ¬a.isOk = true) := by
    refine List.countP_mono_left fun a _ h => decide_eq_true fun ok => ?_
    rw [Activation.failedHostInit, Option.isNone_iff_eq_none.1 ok] at h
    cases h
  have split := results.length_eq_countP_add_countP (·.isOk)
  simp only [tally]
  omega

theorem fallbacks_le (results : List Activation) : (tally results).fallbacks ≤ (tally results).attempts :=
  List.countP_le_length

theorem portFailures_le {results : List Activation} (small : ∀ a ∈ results, a.ports.length < 2 ^ 32) :
    (tally results).portFailures ≤ results.length * (2 ^ 32 - 1) := by
  induction results with
  | nil => exact Nat.le_refl 0
  | cons a results ih =>
    have rest := ih fun b hb => small b (List.mem_cons_of_mem _ hb)
    have ports := small a (List.mem_cons_self ..)
    have failed : a.failed ≤ a.ports.length := Nat.sub_le ..
    have split : (tally (a :: results)).portFailures = a.failed + (tally results).portFailures := by
      simp only [tally, List.map_cons, List.sum_cons]
    rw [split, List.length_cons, Nat.succ_mul]
    omega

/-- at most 2^32 results of fewer than 2^32 ports each have counts that fit in a word -/
theorem tally_fits {results : List Activation} (small : ∀ a ∈ results, a.ports.length < 2 ^ 32)
    (few : results.length ≤ 2 ^ 32) : (tally results).Fits := by
  have attempts : (tally results).attempts = results.length := rfl
  have apart := succeeded_add_hostInitFailures_le results
  have fallbacks := fallbacks_le results
  have portFailures := portFailures_le small
  have most : results.length * (2 ^ 32 - 1) ≤ 2 ^ 32 * (2 ^ 32 - 1) := Nat.mul_le_mul_right _ few
  constructor
  all_goals omega

theorem Counters.exact_plus {results : List Activation} (fits : (tally results).Fits) :
    (Counters.zero.plus (tally results)).Exact (tally results) := by
  have read : ∀ n : Nat, n < 2 ^ 64 → (0 + n.toUInt64).toNat = n := fun n hn => by
    rw [UInt64.zero_add, Nat.toUInt64_eq]
    exact UInt64.toNat_ofNat_of_lt' hn
  have attempts := read _ fits.attempts
  have succeeded := read _ fits.succeeded
  have hostInitFailures := read _ fits.hostInitFailures
  have fallbacks := read _ fits.fallbacks
  refine ⟨attempts, succeeded, hostInitFailures, fallbacks, read _ fits.portFailures, ?_, ?_⟩
  · exact (fallbacks.trans_le (fallbacks_le results)).trans_eq attempts.symm
  · have apart := succeeded_add_hostInitFailures_le results
    rw [← attempts, ← succeeded, ← hostInitFailures] at apart
    exact apart

/-! ## One enable -/

theorem tally_singleton (a : Activation) : tally [a] =
    ⟨1, if a.isOk then 1 else 0, if a.failedHostInit then 1 else 0, if a.fellBack then 1 else 0, a.failed⟩ := by
  simp only [tally, List.countP_singleton, List.length_singleton, List.map_singleton, List.sum_singleton]

/-- a result that was given up before the ports is counted for its reason alone -/
theorem tally_rejected (e : EnableError) :
    tally [.rejected e] = ⟨1, 0, if (Activation.rejected e).failedHostInit then 1 else 0, 0, 0⟩ :=
  tally_singleton _

theorem failedHostInit_ofPorts (ports : List PortReport) (discovery : Discovery) :
    (Activation.ofPorts ports discovery).failedHostInit = false := by
  unfold Activation.ofPorts verdict
  split <;> rfl

namespace Enable

/-- the loop over the ports counts the reports on failed ports -/
theorem foldl_activatePort_counters (d : Driver σ) (now : Time.Timestamp) (request : Request) (olt : OltId)
    (pons : List PonId) (w : Work σ (List PortReport)) :
    (pons.foldl (activatePort d now request olt) w).managed.counters
      = { w.managed.counters with
          portFailures := w.managed.counters.portFailures
            + ((List.zipWith portReport pons (d.activations olt pons w.managed.driver)).countP
                (·.status == .failed)).toUInt64 } := by
  induction pons generalizing w with
  | nil => simp [Driver.activations]
  | cons pon pons ih =>
    rw [List.foldl_cons, ih]
    simp only [activatePort, Driver.activations, List.zipWith_cons_cons, List.countP_cons]
    cases (d.submit olt (.activatePon pon) w.managed.driver).outcome with
    | ok u => rfl
    | error e =>
      simp only [portReport, PortReport.failed, Counters.countPortFailure, beq_self_eq_true, if_true, Nat.toUInt64_eq,
        UInt64.ofNat_add]
      rw [UInt64.add_comm _ (UInt64.ofNat 1), UInt64.add_assoc]
      rfl

/-- taking the fallback ports is counted when the ports are found -/
theorem Found.counted_eq (found : Found) (ports : List PortReport) (c : Counters) :
    found.counted c
      = { c with
          fallbacks := c.fallbacks + (if (Activation.ofPorts ports found.discovery).fellBack then 1 else 0).toUInt64 } := by
  obtain ⟨count, discovery⟩ := found
  cases discovery with
  | configured => simp [counted, Activation.ofPorts, Activation.fellBack]
  | notConnectedFallback => rfl
  | errorFallback => rfl

theorem attempt_counters (d : Driver σ) (now : Time.Timestamp) (request : Request) (found : Found) (m : Managed σ) :
    let a := (attempt d now request found m).value
    (attempt d now request found m).managed.counters
      = { m.counters with
          succeeded := m.counters.succeeded + (if a.isOk then 1 else 0).toUInt64
          portFailures := m.counters.portFailures + a.failed.toUInt64 } := by
  intro a
  have failed : a.failed = ((List.zipWith portReport (interfaces found.count)
      (d.activations m.device.olt (interfaces found.count) m.driver)).countP (·.status == .failed)) := by
    rw [Activation.failed_eq_countP]
    simp only [a, attempt_value, Activation.ofPorts]
  have loop : (activatePorts d now request m.device.olt found.count m).managed.counters
      = { m.counters with portFailures := m.counters.portFailures + a.failed.toUInt64 } := by
    rw [failed, activatePorts, foldl_activatePort_counters]
  show (if a.isOk then (activatePorts d now request m.device.olt found.count m).managed.counters.countSuccess
    else (activatePorts d now request m.device.olt found.count m).managed.counters) = _
  rw [loop]
  cases a.isOk with
  | true => rfl
  | false => simp

end Enable

/-- **An enable adds the tally of its result.** -/
theorem enable_counters (d : Driver σ) (settings : EnableSettings) (now : Time.Timestamp) (request : Enable.Request)
    (m : Managed σ) : (enable d settings now request m).managed.counters
      = m.counters.plus (tally [(enable d settings now request m).value]) := by
  have course := Enable.enable_course d settings now request m
  generalize enable d settings now request m = v at course ⊢
  cases course with
  | unknown other =>
    rw [tally_rejected]
    simp [Counters.plus, Counters.countAttempt, Activation.failedHostInit, Activation.rejected]
  | hostFailed known e host =>
    rw [tally_rejected]
    simp [Counters.plus, Counters.countAttempt, Counters.countHostInitFailure, Activation.failedHostInit,
      Activation.rejected]
  | readFailed known host e read =>
    obtain ⟨cause, rfl, -⟩ := Enable.configRead_of_discover read
    rw [tally_rejected]
    simp [Counters.plus, Counters.countAttempt, Activation.failedHostInit, Activation.rejected]
  | attempted known host found read w ports =>
    have value : w.value = .ofPorts w.value.ports found.discovery := ports ▸ Enable.attempt_eq_ofPorts ..
    have counters := ports ▸ Enable.attempt_counters d now request found _
    show w.managed.counters = m.counters.plus (tally [w.value])
    rw [counters, Enable.Found.counted_eq found w.value.ports, ← value, tally_singleton, value, failedHostInit_ofPorts]
    simp [Counters.plus, Counters.countAttempt]

/-- the number of attempted ports is a word of 32 bits -/
theorem enable_ports_lt (d : Driver σ) (settings : EnableSettings) (now : Time.Timestamp) (request : Enable.Request)
    (m : Managed σ) : (enable d settings now request m).value.ports.length < 2 ^ 32 := by
  have course := Enable.enable_course d settings now request m
  generalize enable d settings now request m = v at course ⊢
  cases course with
  | unknown other => exact Nat.two_pow_pos 32
  | hostFailed known e host => exact Nat.two_pow_pos 32
  | readFailed known host e read => exact Nat.two_pow_pos 32
  | attempted known host found read w ports =>
    have length : w.value.ports.length = found.count.toNat := by rw [ports, Enable.length_attempt_ports]
    exact length ▸ found.count.toNat_lt

/-! ## A run -/

/-- one enable of a run: its time, the device record that is lent to it, and its request -/
structure Loan where
  now : Time.Timestamp
  device : Device
  request : Enable.Request

/-- enables one after another over one driver and one set of counters -/
def enableAll (d : Driver σ) (settings : EnableSettings) : List Loan → Managed σ → Work σ (List Activation)
  | [], m => ⟨[], m, []⟩
  | loan :: loans, m =>
    let w := enable d settings loan.now loan.request { m with device := loan.device }
    let r := enableAll d settings loans w.managed
    ⟨w.value :: r.value, r.managed, w.log ++ r.log⟩

theorem length_enableAll_value (d : Driver σ) (settings : EnableSettings) (loans : List Loan) (m : Managed σ) :
    (enableAll d settings loans m).value.length = loans.length := by
  induction loans generalizing m with
  | nil => rfl
  | cons loan loans ih => simp only [enableAll, List.length_cons, ih]

/-- **A run adds the tally of its results.** -/
theorem enableAll_counters (d : Driver σ) (settings : EnableSettings) (loans : List Loan) (m : Managed σ) :
    (enableAll d settings loans m).managed.counters = m.counters.plus (tally (enableAll d settings loans m).value) := by
  induction loans generalizing m with
  | nil => simp [enableAll, tally, Counters.plus]
  | cons loan loans ih =>
    let w := enable d settings loan.now loan.request { m with device := loan.device }
    let rest := (enableAll d settings loans w.managed).value
    calc (enableAll d settings loans w.managed).managed.counters
      _ = w.managed.counters.plus (tally rest) := ih w.managed
      _ = (m.counters.plus (tally [w.value])).plus (tally rest) := by rw [enable_counters]
      _ = m.counters.plus (tally (w.value :: rest)) := by rw [tally_cons w.value rest, Counters.plus_add]

theorem enableAll_ports_lt (d : Driver σ) (settings : EnableSettings) (loans : List Loan) (m : Managed σ) :
    ∀ a ∈ (enableAll d settings loans m).value, a.ports.length < 2 ^ 32 := by
  induction loans generalizing m with
  | nil => exact nofun
  | cons loan loans ih =>
    intro a ha
    rcases List.mem_cons.1 ha with rfl | ha
    · exact enable_ports_lt ..
    · exact ih _ a ha

/-- after at most 2^32 enables every count fits in a word -/
theorem enableAll_fits (d : Driver σ) (settings : EnableSettings) {loans : List Loan} (m : Managed σ)
    (few : loans.length ≤ 2 ^ 32) : (tally (enableAll d settings loans m).value).Fits :=
  tally_fits (enableAll_ports_lt d settings loans m) ((length_enableAll_value d settings loans m).trans_le few)

/-- **The counters account for every enable.** For every driver and every settings, and whatever devices, times and
requests a run of enables is lent: the counters are the tally of its results, read as exact numbers as long as these fit
in words of 64 bits; after at most 2^32 enables they do. -/
theorem counters_account (d : Driver σ) (settings : EnableSettings) (loans : List Loan) (driver : σ) (id : UInt32) :
    let r := enableAll d settings loans (.fresh driver id)
    (tally r.value).attempts = loans.length ∧
    r.managed.counters = Counters.zero.plus (tally r.value) ∧
    ((tally r.value).Fits → r.managed.counters.Exact (tally r.value)) ∧
    (loans.length ≤ 2 ^ 32 → (tally r.value).Fits) := by
  intro r
  have counters : r.managed.counters = Counters.zero.plus (tally r.value) := enableAll_counters d settings loans _
  refine ⟨length_enableAll_value d settings loans _, counters, ?_, enableAll_fits d settings _⟩
  intro fits
  rw [counters]
  exact Counters.exact_plus fits

/-- an enable of another device, then two that take three fallback ports, of which one fails -/
theorem counters_account_three :
    let script : Script := ⟨.ok, .notConnected, .blank, [.internal], .ok⟩
    let settings : EnableSettings := ⟨3, .fatal⟩
    let loans : List Loan :=
      [⟨.epoch, .fresh 7, ⟨8, none⟩⟩, ⟨.epoch, .fresh 7, ⟨7, none⟩⟩, ⟨.epoch, .fresh 3, ⟨3, none⟩⟩]
    let r := enableAll Scripted.driver settings loans (.fresh (.fresh script) 7)
    loans.length ≤ 2 ^ 32 ∧ (tally r.value).Fits ∧ r.managed.counters.Exact (tally r.value)
      ∧ r.managed.counters = ⟨3, 2, 0, 2, 1⟩ := by
  intro script settings loans r
  obtain ⟨-, -, exact, few⟩ := counters_account Scripted.driver settings loans (.fresh script) 7
  have short : loans.length ≤ 2 ^ 32 := by decide
  exact ⟨short, few short, exact (few short), rfl⟩

end LineTerminal
