/-
The lifecycle record of the managed line terminal, and the counters over its enables.

A device starts deactivated. An override or the end of an enable sets its lifecycle, and only a change of the lifecycle is
stamped with the time; the number of PON ports is that of the last enable that got as far as its ports. A counter is a word
of 64 bits and only ever grows.
-/
import LineTerminal.Olt
import LineTerminal.Time.Timestamp

namespace LineTerminal

open Time (Timestamp)

/-- is the device considered usable -/
inductive Lifecycle where
  | active | deactivated
  deriving DecidableEq, Repr

def Lifecycle.name : Lifecycle → String
  | .active => "active"
  | .deactivated => "deactivated"

/-- what is known about the managed device -/
structure Device where
  id : UInt32
  lifecycle : Lifecycle
  /-- the PON ports of the last enable that attempted its ports -/
  ponPorts : Option UInt32
  /-- when the lifecycle last changed -/
  lastTransition : Option Timestamp
  deriving DecidableEq, Repr

namespace Device

def fresh (id : UInt32) : Device := ⟨id, .deactivated, none, none⟩

/-- the device as the driver numbers it -/
def olt (d : Device) : OltId := ⟨d.id⟩

def isActive (d : Device) : Bool := d.lifecycle == .active

/-- set the lifecycle; only a change is stamped -/
def setLifecycle (d : Device) (now : Timestamp) (l : Lifecycle) : Device :=
  if d.lifecycle = l then d else { d with lifecycle := l, lastTransition := some now }

@[simp] theorem setLifecycle_lifecycle (d : Device) (now : Timestamp) (l : Lifecycle) :
    (d.setLifecycle now l).lifecycle = l := by
  unfold setLifecycle
  split
  · assumption
  · rfl

@[simp] theorem setLifecycle_id (d : Device) (now : Timestamp) (l : Lifecycle) : (d.setLifecycle now l).id = d.id := by
  unfold setLifecycle
  split <;> rfl

@[simp] theorem setLifecycle_ponPorts (d : Device) (now : Timestamp) (l : Lifecycle) :
    (d.setLifecycle now l).ponPorts = d.ponPorts := by
  unfold setLifecycle
  split <;> rfl

def activate (d : Device) (now : Timestamp) : Device := d.setLifecycle now .active

def deactivate (d : Device) (now : Timestamp) : Device := d.setLifecycle now .deactivated

/-- record the verdict of an enable and how many ports it attempted -/
def commit (d : Device) (now : Timestamp) (usable : Bool) (ponPorts : UInt32) : Device :=
  { d with ponPorts := some ponPorts }.setLifecycle now (if usable then .active else .deactivated)

end Device

/-! ## Counters -/

/-- what happened in all enables so far -/
structure Counters where
  /-- enables, whatever became of them -/
  attempts : UInt64
  /-- enables that succeeded -/
  succeeded : UInt64
  /-- enables that failed to bring the host side up -/
  hostInitFailures : UInt64
  /-- enables that took the fallback ports -/
  fallbacks : UInt64
  /-- ports that did not come up -/
  portFailures : UInt64
  deriving DecidableEq, Repr

namespace Counters

def zero : Counters := ⟨0, 0, 0, 0, 0⟩

def countAttempt (c : Counters) : Counters := { c with attempts := c.attempts + 1 }

def countSuccess (c : Counters) : Counters := { c with succeeded := c.succeeded + 1 }

def countHostInitFailure (c : Counters) : Counters := { c with hostInitFailures := c.hostInitFailures + 1 }

def countFallback (c : Counters) : Counters := { c with fallbacks := c.fallbacks + 1 }

def countPortFailure (c : Counters) : Counters := { c with portFailures := c.portFailures + 1 }

end Counters

end LineTerminal
