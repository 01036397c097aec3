/-
Status codes of the driver of an optical line terminal.

The driver answers each call with a signed 32-bit number: zero for success or one of twenty-one negative codes.
`Errno` is that set. `Errno.ofRaw` reads a number and takes every number outside the set for an internal error, so an
unknown code is never success.

Main statements: a code survives being written as its number (`ofRaw_raw`), and only zero is success
(`ofRaw_isOk`).
-/
namespace LineTerminal

/-- a status code of the driver -/
inductive Errno where
  | ok | inProgress | parm | noMem | noRes | internal | noEnt | noDev | already | range | perm
  | notSupported | parse | invalidOp | io | state | deleted | tooMany | notConnected | overflow
  | commFail | timeout
  deriving DecidableEq, Repr

namespace Errno

/-- the number the driver answers for a code -/
def raw : Errno → Int32
  | ok => 0
  | inProgress => -1
  | parm => -2
  | noMem => -3
  | noRes => -4
  | internal => -5
  | noEnt => -6
  | noDev => -7
  | already => -8
  | range => -9
  | perm => -10
  | notSupported => -11
  | parse => -12
  | invalidOp => -13
  | io => -14
  | state => -15
  | deleted => -16
  | tooMany => -17
  | notConnected => -18
  | overflow => -19
  | commFail => -20
  | timeout => -21

/-- every code, from zero downwards -/
def all : List Errno :=
  [ok, inProgress, parm, noMem, noRes, internal, noEnt, noDev, already, range, perm, notSupported, parse,
   invalidOp, io, state, deleted, tooMany, notConnected, overflow, commFail, timeout]

/-- the code a number stands for; a number outside the set is an internal error -/
def ofRaw (n : Int32) : Errno :=
  (all.find? (fun e => e.raw == n)).getD internal

def symbol : Errno → String
  | ok => "BCM_ERR_OK"
  | inProgress => "BCM_ERR_IN_PROGRESS"
  | parm => "BCM_ERR_PARM"
  | noMem => "BCM_ERR_NOMEM"
  | noRes => "BCM_ERR_NORES"
  | internal => "BCM_ERR_INTERNAL"
  | noEnt => "BCM_ERR_NOENT"
  | noDev => "BCM_ERR_NODEV"
  | already => "BCM_ERR_ALREADY"
  | range => "BCM_ERR_RANGE"
  | perm => "BCM_ERR_PERM"
  | notSupported => "BCM_ERR_NOT_SUPPORTED"
  | parse => "BCM_ERR_PARSE"
  | invalidOp => "BCM_ERR_INVALID_OP"
  | io => "BCM_ERR_IO"
  | state => "BCM_ERR_STATE"
  | deleted => "BCM_ERR_DELETED"
  | tooMany => "BCM_ERR_TOO_MANY"
  | notConnected => "BCM_ERR_NOT_CONNECTED"
  | overflow => "BCM_ERR_OVERFLOW"
  | commFail => "BCM_ERR_COMM_FAIL"
  | timeout => "BCM_ERR_TIMEOUT"

/-- only the code zero is success -/
def isOk (e : Errno) : Bool := e == ok

theorem raw_injective {a b : Errno} (h : a.raw = b.raw) : a = b := by
  cases a <;> cases b <;> first | rfl | exact absurd h (by decide)

theorem ofRaw_raw (e : Errno) : ofRaw e.raw = e := by cases e <;> decide

/-- every code but the internal error has one number only -/
theorem ofRaw_eq_iff {e : Errno} (own : e ≠ internal) (n : Int32) : ofRaw n = e ↔ n = e.raw := by
  refine ⟨fun h => ?_, fun h => h ▸ ofRaw_raw e⟩
  unfold ofRaw at h
  cases found : all.find? (fun e => e.raw == n) with
  | none =>
    rw [found, Option.getD_none] at h
    exact absurd h.symm own
  | some e' =>
    rw [found, Option.getD_some] at h
    have number := List.find?_some found
    rw [h, beq_iff_eq] at number
    exact number.symm

theorem ofRaw_isOk (n : Int32) : (ofRaw n).isOk = true ↔ n = 0 :=
  beq_iff_eq.trans (ofRaw_eq_iff (e := ok) (by decide) n)

end Errno

end LineTerminal
