/-
Errors of a driver call.

A failing status code is classified: "not connected", "not supported", an invalid parameter and a missing object have
errors of their own, every other code is a plain status error. `DriverError.ofErrno` is that table, and `errno` the way
back to the closest code. Only a status error can be retryable.
-/
import LineTerminal.Errno

namespace LineTerminal

inductive DriverError where
  /-- a code with no more specific meaning -/
  | status (errno : Errno)
  /-- the device has not published its configuration yet -/
  | notConnected
  /-- the driver in use cannot do this -/
  | notSupported (feature : String)
  /-- an argument was refused -/
  | invalidParameter (detail : String)
  /-- the object is not there -/
  | notFound (object : String)
  /-- the driver or its answer is at fault -/
  | internal (detail : String)
  deriving DecidableEq, Repr

namespace DriverError

/-- the error a status code stands for; the code of success is no error and counts as an internal one -/
def ofErrno : Errno → DriverError
  | .ok => internal "from_errno called with BCM_ERR_OK"
  | .notConnected => notConnected
  | .notSupported => notSupported "unknown"
  | .parm => invalidParameter ("BAL returned " ++ Errno.parm.symbol)
  | .range => invalidParameter ("BAL returned " ++ Errno.range.symbol)
  | .noEnt | .noDev => notFound "unknown"
  | e => status e

/-- the code closest to an error -/
def errno : DriverError → Errno
  | status e => e
  | notConnected => .notConnected
  | notSupported _ => .notSupported
  | invalidParameter _ => .parm
  | notFound _ => .noEnt
  | internal _ => .internal

def message : DriverError → String
  | status e => "BAL operation failed: " ++ e.symbol
  | notConnected => "BAL device not connected"
  | notSupported feature => "Feature not supported: " ++ feature
  | invalidParameter detail => "Invalid parameter: " ++ detail
  | notFound object => "Object not found: " ++ object
  | internal detail => "Internal error: " ++ detail

/-- the bring-up condition: the device has not connected yet -/
def isNotConnected : DriverError → Bool
  | notConnected => true
  | _ => false

theorem isNotConnected_iff (e : DriverError) : e.isNotConnected = true ↔ e = .notConnected := by
  cases e <;> simp [isNotConnected]

/-- trying again may help after a shortage, a communication failure, a timeout, or while work is in progress -/
def isRetryable : DriverError → Bool
  | status .inProgress | status .noRes | status .noMem | status .commFail | status .timeout => true
  | _ => false

end DriverError

/-- the codes after which trying again may help -/
theorem DriverError.isRetryable_ofErrno (e : Errno) : (ofErrno e).isRetryable
    = decide (e ∈ [Errno.inProgress, Errno.noMem, Errno.noRes, Errno.commFail, Errno.timeout]) := by
  cases e <;> decide

/-- a status code as the result of a call: success, or the error it stands for -/
def Errno.result (e : Errno) : Except DriverError Unit :=
  if e.isOk then .ok () else .error (DriverError.ofErrno e)

theorem Errno.result_eq_ok_iff (e : Errno) : e.result = .ok () ↔ e.isOk = true := by
  unfold result
  split
  · exact ⟨fun _ => by assumption, fun _ => rfl⟩
  · exact ⟨nofun, fun h => absurd h (by assumption)⟩

theorem Errno.result_eq_error_iff (e : Errno) (cause : DriverError) :
    e.result = .error cause ↔ e.isOk = false ∧ cause = DriverError.ofErrno e := by
  unfold result
  split
  · rename_i ok
    exact ⟨nofun, fun h => nomatch ok.symm.trans h.1⟩
  · rename_i failed
    exact ⟨fun h => ⟨Bool.eq_false_iff.2 failed, (Except.error.inj h).symm⟩, fun h => by rw [h.2]⟩

end LineTerminal
