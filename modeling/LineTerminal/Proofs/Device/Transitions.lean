/-
When the lifecycle of a device last changed.

The record of a device is written in three ways: by the two overrides, and by the commit of an enable. `Device.steps` is the
record after any writes, each of them at a time of its own; the times need not be in order. `Device.changing` are the writes
that left another lifecycle than they found.
- `steps_lastTransition`: the stamp is the time of the last of these, whatever came after it;
- `steps_lifecycle`: the lifecycle is the one at the beginning exactly when their number is even, as there are only two;
- `steps_ponPorts`: the number of ports is that of the last commit, whether it changed the lifecycle or not;
- `steps_again`: a write that is made again, at any time, finds everything as it leaves it.

`transitions_stamped` puts that together for a device that was never touched. The device of a daemon is such a record after
any commands (`performAll_steps`): an override is one write, an enable that attempted its ports is one, and nothing else is.
-/
import Mathlib.Algebra.Ring.Parity
import LineTerminal.Proofs.Device.Replay

namespace LineTerminal

open Time (Timestamp)

variable {σ : Type}

theorem Lifecycle.eq_iff_ne {a b c : Lifecycle} (other : b ≠ c) : a = c ↔ a ≠ b := by
  cases a <;> cases b <;> cases c <;> simp_all

namespace Device

/-! ## Writes -/

/-- a write to the record of a device -/
inductive Write where
  | activate
  | deactivate
  /-- the verdict of an enable, and how many ports it attempted -/
  | commit (usable : Bool) (ponPorts : UInt32)
  deriving DecidableEq, Repr

def Write.lifecycle : Write → Lifecycle
  | .activate => .active
  | .deactivate => .deactivated
  | .commit usable _ => if usable then .active else .deactivated

def Write.ponPorts? : Write → Option UInt32
  | .commit _ ponPorts => some ponPorts
  | _ => none

/-- a write, and what the clock reads at it -/
structure Step where
  time : Timestamp
  write : Write
  deriving DecidableEq, Repr

def step (d : Device) (st : Step) : Device :=
  match st.write with
  | .activate => d.activate st.time
  | .deactivate => d.deactivate st.time
  | .commit usable ponPorts => d.commit st.time usable ponPorts

def steps (d : Device) (sts : List Step) : Device := sts.foldl step d

def changing : Device → List Step → List Step
  | _, [] => []
  | d, st :: sts =>
    if (d.step st).lifecycle = d.lifecycle then changing (d.step st) sts else st :: changing (d.step st) sts

/-! ## One write -/

theorem step_lifecycle (d : Device) (st : Step) : (d.step st).lifecycle = st.write.lifecycle := by
  unfold step
  cases st.write <;> exact setLifecycle_lifecycle ..

theorem step_ponPorts (d : Device) (st : Step) : (d.step st).ponPorts = st.write.ponPorts?.or d.ponPorts := by
  unfold step
  cases st.write <;> exact setLifecycle_ponPorts ..

theorem step_id (d : Device) (st : Step) : (d.step st).id = d.id := by
  unfold step
  cases st.write <;> exact setLifecycle_id ..

theorem setLifecycle_lastTransition (d : Device) (now : Timestamp) (l : Lifecycle) :
    (d.setLifecycle now l).lastTransition = if l = d.lifecycle then d.lastTransition else some now := by
  unfold setLifecycle
  by_cases same : l = d.lifecycle
  · rw [if_pos same, if_pos same.symm]
  · rw [if_neg same, if_neg (Ne.symm same)]

/-- only a change of the lifecycle is stamped -/
theorem step_lastTransition (d : Device) (st : Step) :
    (d.step st).lastTransition = if (d.step st).lifecycle = d.lifecycle then d.lastTransition else some st.time := by
  rw [step_lifecycle]
  unfold step
  cases st.write <;> exact setLifecycle_lastTransition ..

theorem setLifecycle_eq_self {d : Device} {l : Lifecycle} (same : d.lifecycle = l) (now : Timestamp) :
    d.setLifecycle now l = d :=
  if_pos same

/-- a write that is made again changes nothing, whatever the clock reads then -/
theorem step_again (d : Device) (st : Step) (now : Timestamp) : (d.step st).step ⟨now, st.write⟩ = d.step st := by
  obtain ⟨time, write⟩ := st
  cases write with
  | activate => exact setLifecycle_eq_self (setLifecycle_lifecycle ..) now
  | deactivate => exact setLifecycle_eq_self (setLifecycle_lifecycle ..) now
  | commit usable ponPorts =>
    -- the number of ports is there already
    have recorded : { d.commit time usable ponPorts with ponPorts := some ponPorts } = d.commit time usable ponPorts := by
      have ports : (d.commit time usable ponPorts).ponPorts = some ponPorts := setLifecycle_ponPorts ..
      rw [← ports]
    show ({ d.commit time usable ponPorts with ponPorts := some ponPorts } : Device).setLifecycle now _ = _
    rw [recorded]
    exact setLifecycle_eq_self (setLifecycle_lifecycle ..) now

/-! ## Any writes -/

theorem steps_append (d : Device) (sts more : List Step) : d.steps (sts ++ more) = (d.steps sts).steps more :=
  List.foldl_append

theorem steps_id (d : Device) (sts : List Step) : (d.steps sts).id = d.id := by
  induction sts generalizing d with
  | nil => rfl
  | cons st sts ih => exact (ih (d.step st)).trans (d.step_id st)

theorem steps_ponPorts (d : Device) (sts : List Step) :
    (d.steps sts).ponPorts = (sts.filterMap (·.write.ponPorts?)).getLast?.or d.ponPorts := by
  induction sts generalizing d with
  | nil => rfl
  | cons st sts ih =>
    rw [Daemon.getLast?_filterMap_cons, Option.or_assoc, ← step_ponPorts]
    exact ih (d.step st)

/-- **The stamp is the time of the last change.** -/
theorem steps_lastTransition (d : Device) (sts : List Step) :
    (d.steps sts).lastTransition = ((d.changing sts).getLast?.map (·.time)).or d.lastTransition := by
  induction sts generalizing d with
  | nil => rfl
  | cons st sts ih =>
    have later : (d.steps (st :: sts)).lastTransition
        = (((d.step st).changing sts).getLast?.map (·.time)).or (d.step st).lastTransition := ih (d.step st)
    rw [later, step_lastTransition, changing]
    split
    · rfl
    · rw [List.getLast?_cons]
      cases ((d.step st).changing sts).getLast? <;> rfl

/-- **Every change leads to the other lifecycle.** -/
theorem steps_lifecycle (d : Device) (sts : List Step) :
    (d.steps sts).lifecycle = d.lifecycle ↔ Even (d.changing sts).length := by
  induction sts generalizing d with
  | nil => exact ⟨fun _ => Even.zero, fun _ => rfl⟩
  | cons st sts ih =>
    have later : (d.steps (st :: sts)).lifecycle = (d.step st).lifecycle ↔ Even ((d.step st).changing sts).length :=
      ih (d.step st)
    rw [changing]
    split
    · rename_i kept
      rw [← later, kept]
    · rename_i changed
      rw [List.length_cons, Nat.even_add_one, ← later]
      exact Lifecycle.eq_iff_ne changed

/-- **The last write may be made again and again.** -/
theorem steps_again {d : Device} {sts : List Step} {st : Step} (last : sts.getLast? = some st) (times : List Timestamp) :
    (d.steps sts).steps (times.map (⟨·, st.write⟩)) = d.steps sts := by
  obtain ⟨before, rfl⟩ := List.getLast?_eq_some_iff.1 last
  have here : d.steps (before ++ [st]) = (d.steps before).step st := by rw [steps_append]; rfl
  rw [here]
  induction times with
  | nil => rfl
  | cons now times ih =>
    rw [List.map_cons, steps, List.foldl_cons, step_again]
    exact ih

end Device

/-! ## The writes of a daemon -/

namespace Daemon

open Device (Step)

/-- a command writes the record at most once -/
theorem perform_steps (s : Setup σ) (now : Timestamp) (command : Command) (m : Managed σ) :
    ∃ sts : List Step, (perform s now command m).managed.device = m.device.steps sts ∧ sts.length ≤ 1 ∧
      ∀ st ∈ sts, st.time = now := by
  have nothing : ∃ sts : List Step, m.device = m.device.steps sts ∧ sts.length ≤ 1 ∧ ∀ st ∈ sts, st.time = now :=
    ⟨[], rfl, Nat.zero_le 1, List.forall_mem_nil _⟩
  have one (write : Device.Write) : ∃ sts : List Step, m.device.step ⟨now, write⟩ = m.device.steps sts ∧
      sts.length ≤ 1 ∧ ∀ st ∈ sts, st.time = now :=
    ⟨[⟨now, write⟩], rfl, Nat.le_refl 1, fun st hst => by rw [List.mem_singleton.1 hst]⟩
  cases command with
  | enable request =>
    simp only [perform]
    cases rejected : (enable s.driver s.settings now request m).value.isRejected with
    | true =>
      rw [enable_rejected_device _ _ _ _ _ rejected]
      exact nothing
    | false =>
      obtain ⟨count, -, device⟩ := enable_attempted_device _ _ _ _ _ rejected
      rw [device]
      exact one (.commit _ count)
  | status => exact nothing
  | activate => exact one .activate
  | deactivate => exact one .deactivate
  | shutdown => exact nothing

/-- **The device of a daemon is a record after writes**, at times that the clock of the daemon has read -/
theorem performAll_steps (s : Setup σ) (n : Nat) (commands : List Command) (m : Managed σ) :
    ∃ sts : List Step, (performAll s n commands m).managed.device = m.device.steps sts ∧
      ∀ st ∈ sts, ∃ k, st.time = s.clock k := by
  induction commands generalizing n m with
  | nil => exact ⟨[], rfl, List.forall_mem_nil _⟩
  | cons command commands ih =>
    obtain ⟨first, device, -, now⟩ := perform_steps s (s.clock n) command m
    obtain ⟨rest, later, times⟩ := ih (n + 1) (perform s (s.clock n) command m).managed
    refine ⟨first ++ rest, ?_, fun st hst => ?_⟩
    · rw [Device.steps_append, ← device]
      exact later
    · rcases List.mem_append.1 hst with hst | hst
      · exact ⟨n, now st hst⟩
      · exact times st hst

end Daemon

/-! ## Main result -/

namespace Device

/-- **Changes of the lifecycle are stamped, and nothing else is.** After any writes to the record of a device that was never
touched, at any times:
- there is no stamp exactly when no write changed the lifecycle, and otherwise it is the time of the last one that did;
- the device is active exactly when an odd number of writes changed the lifecycle;
- the number of ports is that of the last commit;
- to make the last write again, however often and whenever, leaves the whole record as it is.
The device of a daemon is such a record after any commands. -/
theorem transitions_stamped (id : UInt32) (sts : List Step) :
    let d := (fresh id).steps sts
    let changes := (fresh id).changing sts
    (d.lastTransition = none ↔ changes = []) ∧
    d.lastTransition = changes.getLast?.map (·.time) ∧
    (d.lifecycle = .active ↔ Odd changes.length) ∧
    d.ponPorts = (sts.filterMap (·.write.ponPorts?)).getLast? ∧
    d.id = id ∧
    (∀ st, sts.getLast? = some st → ∀ times : List Timestamp, d.steps (times.map (⟨·, st.write⟩)) = d) ∧
    ∀ (σ : Type) (s : Daemon.Setup σ) (n : Nat) (commands : List Daemon.Command) (driver : σ), ∃ sts : List Step,
      (Daemon.performAll s n commands (.fresh driver id)).managed.device = (fresh id).steps sts ∧
        ∀ st ∈ sts, ∃ k, st.time = s.clock k := by
  intro d changes
  have stamp : d.lastTransition = changes.getLast?.map (·.time) := by
    rw [steps_lastTransition]
    exact Option.or_none
  have active : d.lifecycle = .active ↔ d.lifecycle ≠ .deactivated := Lifecycle.eq_iff_ne nofun
  refine ⟨?_, stamp, ?_, ?_, steps_id .., fun st last times => steps_again last times, ?_⟩
  · rw [stamp, Option.map_eq_none_iff, List.getLast?_eq_none_iff]
  · rw [active, ← Nat.not_even_iff_odd]
    exact not_congr (steps_lifecycle (fresh id) sts)
  · exact (steps_ponPorts (fresh id) sts).trans Option.or_none
  · exact fun σ s n commands driver => Daemon.performAll_steps s n commands (.fresh driver id)

end Device

end LineTerminal
