/-
What the error of a call keeps when it is passed on as a code.

A status number becomes a code, and a code that is not success becomes an error. An error tells a code in turn, and whoever is
told that code makes an error of it again (`DriverError.passedOn`). Something is lost on each way: a number without a code of
its own becomes an internal error, an argument out of range is told as an invalid one and a missing device as a missing object
(`Errno.told`), and the text of an error is not told at all. The class of an error is not lost:
- an error apart from its text tells the same code, and is "not connected" or retryable just as before (`errno_textless`,
  `isNotConnected_textless`, `isRetryable_textless`);
- the errors that stay the same apart from their text are exactly those that a code stands for (`textless_passedOn_iff`);
- nothing more is lost when such an error is passed on again and again (`passedOn_again`);
- the numbers that count as an internal error are its own and all that are no code (`Errno.ofRaw_eq_internal_iff`).

`class_survives`: so it is with the error of every number.
-/
import Mathlib.Logic.Function.Iterate
import LineTerminal.Proofs.Driver.StatusNumbers

namespace LineTerminal

namespace Errno

/-! ## Numbers without a code -/

/-- the numbers of the codes go from zero downwards without a gap -/
theorem raw_all : all.map raw = (List.range 22).map fun k : Nat => Int32.ofInt (-k) := by decide

theorem exists_raw_eq_iff (n : Int32) : (∃ e : Errno, e.raw = n) ↔ -21 ≤ n ∧ n ≤ 0 := by
  constructor
  · rintro ⟨e, rfl⟩
    cases e <;> decide
  · rintro ⟨low, high⟩
    have low : -21 ≤ n.toInt := Int32.le_iff_toInt_le.1 low
    have high : n.toInt ≤ 0 := Int32.le_iff_toInt_le.1 high
    obtain ⟨k, hk⟩ := Int.eq_ofNat_of_zero_le (show 0 ≤ -n.toInt by omega)
    have number : Int32.ofInt (-k) = n := by rw [← hk, Int.neg_neg, Int32.ofInt_toInt]
    have inside : k < 22 := by omega
    have listed : n ∈ all.map raw := by
      rw [raw_all, List.mem_map]
      exact ⟨k, List.mem_range.2 inside, number⟩
    obtain ⟨e, -, he⟩ := List.mem_map.1 listed
    exact ⟨e, he⟩

/-- an internal error has its own number, and those that are no code -/
theorem ofRaw_eq_internal_iff (n : Int32) : ofRaw n = internal ↔ n = -5 ∨ n < -21 ∨ 0 < n := by
  constructor
  · intro h
    by_contra other
    rw [not_or, not_or, Int32.not_lt, Int32.not_lt] at other
    obtain ⟨own, low, high⟩ := other
    obtain ⟨e, rfl⟩ := (exists_raw_eq_iff n).2 ⟨low, high⟩
    rw [ofRaw_raw] at h
    rw [h] at own
    exact own rfl
  · rintro (rfl | outside)
    · rfl
    · by_contra other
      have number : (ofRaw n).raw = n := ((ofRaw_eq_iff other n).1 rfl).symm
      obtain ⟨low, high⟩ := (exists_raw_eq_iff n).1 ⟨_, number⟩
      rcases outside with below | above
      · exact Int32.not_lt.2 low below
      · exact Int32.not_lt.2 high above

/-! ## Codes told -/

/-- the code that the error of a code tells: two codes share their error with another one -/
def told : Errno → Errno
  | range => parm
  | noDev => noEnt
  | e => e

theorem told_told (e : Errno) : e.told.told = e.told := by cases e <;> rfl

/-- what is told of a failure is never success -/
theorem told_eq_ok_iff (e : Errno) : e.told = ok ↔ e = ok := by cases e <;> decide

theorem told_ofRaw (n : Int32) :
    (ofRaw n).told = if n = -9 then parm else if n = -7 then noEnt else ofRaw n := by
  have ranged : ofRaw n = range ↔ n = -9 := ofRaw_eq_iff (by decide) n
  have missing : ofRaw n = noDev ↔ n = -7 := ofRaw_eq_iff (by decide) n
  simp only [← ranged, ← missing]
  cases ofRaw n <;> rfl

end Errno

namespace DriverError

/-! ## Errors passed on -/

/-- an error apart from its text: what kind of error it is, and the code of a plain status error -/
def textless : DriverError → DriverError
  | status e => status e
  | notConnected => notConnected
  | notSupported _ => notSupported ""
  | invalidParameter _ => invalidParameter ""
  | notFound _ => notFound ""
  | internal _ => internal ""

/-- the error that is made of the code that an error tells -/
def passedOn (e : DriverError) : DriverError := ofErrno e.errno

theorem errno_textless (e : DriverError) : e.textless.errno = e.errno := by cases e <;> rfl

theorem isNotConnected_textless (e : DriverError) : e.textless.isNotConnected = e.isNotConnected := by cases e <;> rfl

theorem isRetryable_textless (e : DriverError) : e.textless.isRetryable = e.isRetryable := by cases e <;> rfl

/-- to wait for the device and to try again are different answers to an error -/
theorem isNotConnected_of_isRetryable {e : DriverError} (again : e.isRetryable = true) : e.isNotConnected = false := by
  cases e with
  | notConnected => cases again
  | _ => rfl

theorem errno_ofErrno {c : Errno} (failed : c ≠ .ok) : (ofErrno c).errno = c.told := by
  cases c with
  | ok => exact absurd rfl failed
  | _ => rfl

theorem textless_ofErrno_told (c : Errno) : (ofErrno c.told).textless = (ofErrno c).textless := by cases c <;> rfl

theorem passedOn_ofErrno {c : Errno} (failed : c ≠ .ok) : (ofErrno c).passedOn = ofErrno c.told := by
  rw [passedOn, errno_ofErrno failed]

/-- **Exactly the errors of codes stay what they are**, apart from their text -/
theorem textless_passedOn_iff (e : DriverError) :
    e.passedOn.textless = e.textless ↔ ∃ c, c ≠ .ok ∧ e.textless = (ofErrno c).textless := by
  constructor
  · intro kept
    refine ⟨e.errno, fun success => ?_, kept.symm⟩
    -- only a status error can tell success, and it comes back as an internal one
    cases e with
    | status c =>
      rw [show c = .ok from success] at kept
      cases kept
    | _ => cases success
  · rintro ⟨c, failed, same⟩
    have code : e.errno = c.told := by rw [← errno_textless, same, errno_textless, errno_ofErrno failed]
    rw [passedOn, code, textless_ofErrno_told, same]

/-- once an error of a code has been passed on, it stays as it is -/
theorem passedOn_again {c : Errno} (failed : c ≠ .ok) (k : Nat) :
    passedOn^[k + 1] (ofErrno c) = (ofErrno c).passedOn := by
  have told : c.told ≠ .ok := (Errno.told_eq_ok_iff c).not.2 failed
  rw [Function.iterate_succ_apply, passedOn_ofErrno failed]
  apply Function.iterate_fixed
  rw [passedOn_ofErrno told, Errno.told_told]

/-- an error whose class does not change when it is passed on -/
structure Steady (e : DriverError) : Prop where
  kind : e.passedOn.textless = e.textless
  notConnected : e.passedOn.isNotConnected = e.isNotConnected
  retryable : e.passedOn.isRetryable = e.isRetryable
  code : e.passedOn.errno = e.errno
  /-- however often it is passed on -/
  again : ∀ k, passedOn^[k + 1] e = e.passedOn
  /-- also to one who is told the number of the code -/
  numbered : Vendor.resultOfRaw e.errno.raw = .error e.passedOn

theorem steady_ofErrno {c : Errno} (failed : c ≠ .ok) : (ofErrno c).Steady := by
  have kind : (ofErrno c).passedOn.textless = (ofErrno c).textless :=
    (textless_passedOn_iff _).2 ⟨c, failed, rfl⟩
  refine ⟨kind, ?_, ?_, ?_, passedOn_again failed, ?_⟩
  · rw [← isNotConnected_textless, kind, isNotConnected_textless]
  · rw [← isRetryable_textless, kind, isRetryable_textless]
  · rw [← errno_textless, kind, errno_textless]
  · have told : c.told ≠ .ok := (Errno.told_eq_ok_iff c).not.2 failed
    have number : c.told.raw ≠ 0 := fun zero => told (Errno.raw_injective (b := .ok) zero)
    rw [passedOn_ofErrno failed, errno_ofErrno failed, Vendor.resultOfRaw_eq_error _ number, Errno.ofRaw_raw]

end DriverError

namespace Vendor

/-- a number that is no code comes to the same as the number of an internal error -/
theorem resultOfRaw_eq_internal_iff (n : Int32) :
    resultOfRaw n = .error (.status .internal) ↔ n = -5 ∨ n < -21 ∨ 0 < n := by
  rw [← Errno.ofRaw_eq_internal_iff, resultOfRaw, Errno.result_eq_error_iff]
  constructor
  · rintro ⟨-, cause⟩
    cases code : Errno.ofRaw n with
    | internal => rfl
    | _ =>
      rw [code] at cause
      cases cause
  · intro code
    rw [code]
    exact ⟨rfl, rfl⟩

/-! ## Main result -/

/-- **The class of a failure survives its conversions.** Of every number:
- it is success exactly when it is zero, and otherwise there is an error;
- the error tells the code of the number, but an invalid parameter for -9 and a missing object for -7;
- passed on as that code, it is of the same kind, tells the same code and is "not connected" or retryable just as before; to
  pass it on again changes nothing more;
- it is never both "not connected" and retryable.
Exactly the numbers from -21 to 0 are codes. All others come to the same as -5: an error that is in neither class. -/
theorem class_survives (n : Int32) :
    (resultOfRaw n = .ok () ↔ n = 0) ∧
    (n ≠ 0 → ∃ e, resultOfRaw n = .error e ∧
      e.errno = (if n = -9 then .parm else if n = -7 then .noEnt else Errno.ofRaw n) ∧
      e.Steady ∧
      ¬ (e.isNotConnected = true ∧ e.isRetryable = true)) ∧
    (resultOfRaw n = resultOfRaw (-5) ↔ n = -5 ∨ n < -21 ∨ 0 < n) ∧
    (n < -21 ∨ 0 < n → ∃ e, resultOfRaw n = .error e ∧ e.isNotConnected = false ∧ e.isRetryable = false) := by
  have internal : resultOfRaw (-5) = .error (.status .internal) := (resultOfRaw_eq_internal_iff _).2 (.inl rfl)
  refine ⟨resultOfRaw_eq_ok_iff n, fun failed => ?_, ?_, fun foreign => ?_⟩
  · have code : Errno.ofRaw n ≠ .ok := fun ok => failed ((Errno.ofRaw_isOk n).1 (beq_iff_eq.2 ok))
    refine ⟨_, resultOfRaw_eq_error n failed, ?_, DriverError.steady_ofErrno code, ?_⟩
    · rw [DriverError.errno_ofErrno code, Errno.told_ofRaw]
    · rintro ⟨waiting, again⟩
      rw [DriverError.isNotConnected_of_isRetryable again] at waiting
      cases waiting
  · rw [internal]
    exact resultOfRaw_eq_internal_iff n
  · exact ⟨_, (resultOfRaw_eq_internal_iff n).2 (.inr foreign), rfl, rfl⟩

/-- the text of an error may change, and only the first time -/
example :
    resultOfRaw (-9) = .error (.invalidParameter "BAL returned BCM_ERR_RANGE") ∧
    (DriverError.invalidParameter "BAL returned BCM_ERR_RANGE").passedOn = .invalidParameter "BAL returned BCM_ERR_PARM" :=
  ⟨rfl, rfl⟩

end Vendor

end LineTerminal
