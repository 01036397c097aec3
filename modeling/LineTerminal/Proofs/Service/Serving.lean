/-
Which valid configurations can be run.

Two things could end a run from within: a queue that cannot be made, and a counter that runs over.
- `performAll_counters`, `performAll_ports_lt`: the counters are the tally of the enables that were carried out, and none
  of them attempts 2^32 ports;
- `Session.exact`: so after any moves of fewer than 2^32 requests the counters read as exact numbers, over every driver;
- `fits_setup`: the queue of a valid configuration can be made exactly when it is not longer than the longest one, and a
  run whose queue can be made comes to serve and ends well (`launch_eq_ok`, `Begun.stop_eq`).

`serves_iff`: a valid configuration is served, and its counters are exact, exactly when its queue is not longer than the
longest one. `validate` has no upper bound for the depth (`validate_deep`), so it accepts configurations that end the run
at once (`serves_iff_too_deep`).
-/
import LineTerminal.Proofs.Daemon.Bookkeeping
import LineTerminal.Proofs.Enable.Accounts
import LineTerminal.Proofs.Service.Course

namespace LineTerminal

open Daemon (Setup Session Command Reply Move)

variable {σ : Type}

namespace Daemon

/-! ## Counters over commands -/

def Reply.activation? : Reply → Option Activation
  | .enabled a => some a
  | _ => none

theorem perform_counters (s : Setup σ) (now : Time.Timestamp) (command : Command) (m : Managed σ) :
    (perform s now command m).managed.counters
      = m.counters.plus (tally (perform s now command m).value.activation?.toList) := by
  cases command with
  | enable request => exact enable_counters s.driver s.settings now request m
  | status => simp [perform, Reply.activation?, tally, Counters.plus]
  | activate => simp [perform, Reply.activation?, tally, Counters.plus]
  | deactivate => simp [perform, Reply.activation?, tally, Counters.plus]
  | shutdown => simp [perform, Reply.activation?, tally, Counters.plus]

theorem performAll_counters (s : Setup σ) (n : Nat) (commands : List Command) (m : Managed σ) :
    (performAll s n commands m).managed.counters
      = m.counters.plus (tally ((performAll s n commands m).value.filterMap (·.activation?))) := by
  induction commands generalizing n m with
  | nil => simp [performAll, tally, Counters.plus]
  | cons command commands ih =>
    let w := perform s (s.clock n) command m
    let rest := (performAll s (n + 1) commands w.managed).value.filterMap (·.activation?)
    have step : w.managed.counters = m.counters.plus (tally w.value.activation?.toList) := perform_counters ..
    show (performAll s (n + 1) commands w.managed).managed.counters
      = m.counters.plus (tally ((w.value :: (performAll s (n + 1) commands w.managed).value).filterMap (·.activation?)))
    rw [ih, step, List.filterMap_cons]
    cases w.value.activation? with
    | none => simp [tally, Counters.plus]
    | some a =>
      simp only [Option.toList_some]
      rw [tally_cons a rest, Counters.plus_add]

theorem perform_ports_lt (s : Setup σ) (now : Time.Timestamp) (command : Command) (m : Managed σ) :
    ∀ a ∈ (perform s now command m).value.activation?, a.ports.length < 2 ^ 32 := by
  intro a ha
  cases command with
  | enable request =>
    cases ha
    exact enable_ports_lt s.driver s.settings now request m
  | status => cases ha
  | activate => cases ha
  | deactivate => cases ha
  | shutdown => cases ha

theorem performAll_ports_lt (s : Setup σ) (n : Nat) (commands : List Command) (m : Managed σ) :
    ∀ a ∈ (performAll s n commands m).value.filterMap (·.activation?), a.ports.length < 2 ^ 32 := by
  induction commands generalizing n m with
  | nil => exact nofun
  | cons command commands ih =>
    intro a ha
    obtain ⟨r, hr, ha⟩ := List.mem_filterMap.1 ha
    rcases List.mem_cons.1 hr with rfl | hr
    · exact perform_ports_lt s (s.clock n) command m a ha
    · exact ih _ _ a (List.mem_filterMap.2 ⟨r, hr, ha⟩)

/-! ## Counters of a session -/

def Session.activations (x : Session σ) : List Activation := (x.served.map (·.2)).filterMap (·.activation?)

theorem Inv.length_done_le {s : Setup σ} {driver : σ} {moves : List Move} {x : Session σ} (h : Inv s driver moves x) :
    x.done.length ≤ x.sent.length := by
  have places := h.located.places.length_eq
  rw [List.length_map, Session.placed, Session.inside] at places
  simp only [List.length_append] at places
  omega

/-- after fewer than 2^32 requests no counter has run over -/
theorem Session.exact (s : Setup σ) (start : σ) (moves : List Move)
    (few : ((Session.start s start).run s moves).sent.length < 2 ^ 32) :
    let x := (Session.start s start).run s moves
    x.managed.counters.Exact (tally x.activations) := by
  intro x
  have h : Inv s start moves x := inv_run s start moves
  have counters : x.managed.counters = Counters.zero.plus (tally x.activations) := by
    rw [Session.activations, h.replies, h.managed]
    exact performAll_counters s 1 _ _
  have small : ∀ a ∈ x.activations, a.ports.length < 2 ^ 32 := by
    rw [Session.activations, h.replies]
    exact performAll_ports_lt s 1 _ _
  have done : x.activations.length ≤ x.done.length := by
    calc x.activations.length
      _ ≤ (x.served.map (·.2)).length := List.length_filterMap_le ..
      _ = x.done.length := by rw [Session.done, List.length_map, List.length_map]
  have most : x.activations.length ≤ 2 ^ 32 := Nat.le_of_lt (Nat.lt_of_le_of_lt (done.trans h.length_done_le) few)
  rw [counters]
  exact Counters.exact_plus (tally_fits small most)

end Daemon

namespace Service

open Daemon (maxCapacity)

/-! ## Coming to serve -/

variable (driver : Driver σ) (clock : Nat → Time.Timestamp) (file : Option String) (c : Config.Agent) (start : σ)

theorem capacity_setup {c : Config.Agent} (valid : c.validate = .ok ()) :
    (setup driver clock c).capacity = c.queueDepth.toNat := by
  obtain ⟨-, -, depth, -⟩ := c.validate_eq_ok_iff.1 valid
  have positive : 1 ≤ c.queueDepth.toNat := by
    refine Nat.one_le_iff_ne_zero.2 fun zero => depth ?_
    exact UInt64.toNat.inj zero
  exact Nat.max_eq_left positive

theorem fits_setup {c : Config.Agent} (valid : c.validate = .ok ()) :
    (setup driver clock c).fits = true ↔ c.queueDepth.toNat ≤ maxCapacity := by
  rw [Setup.fits, decide_eq_true_eq, capacity_setup driver clock valid]

/-- the program serves to the end, and over any clients none of its counters runs over -/
structure Serves : Prop where
  launched : ∃ r, launch driver clock file c start = .ok r
  /-- whatever the interrupt is like -/
  finished : ∀ around, (run driver clock around file (.ok c) start).ending = .finished
  /-- for any moves of fewer than 2^32 requests -/
  exact : ∀ moves, let s := setup driver clock c
    let x := (Session.start s start).run s moves
    x.sent.length < 2 ^ 32 → x.managed.counters.Exact (tally x.activations)

theorem Serves.fits {driver : Driver σ} {clock : Nat → Time.Timestamp} {file : Option String} {c : Config.Agent} {start : σ}
    (serves : Serves driver clock file c start) : (setup driver clock c).fits = true := by
  by_contra unfit
  obtain ⟨r, launched⟩ := serves.launched
  rw [launch_eq_error driver clock file c start (Bool.eq_false_iff.2 unfit)] at launched
  cases launched

/-- no depth is too large for `validate` -/
theorem validate_deep {depth : UInt64} (positive : depth ≠ 0) :
    { Config.Agent.standard with queueDepth := depth }.validate = .ok () := by
  obtain ⟨id, enable, -, level⟩ := Config.Agent.standard.validate_eq_ok_iff.1 rfl
  exact (Config.Agent.validate_eq_ok_iff _).2 ⟨id, enable, positive, level⟩

/-- **A valid configuration is served exactly when its queue can be made.** The depth is the only reason not to be served:
the queue has the configured depth, and a longer queue than the longest one ends the run before it begins. -/
theorem serves_iff {c : Config.Agent} (valid : c.validate = .ok ()) :
    (setup driver clock c).capacity = c.queueDepth.toNat ∧ 1 ≤ c.queueDepth.toNat ∧
    (Serves driver clock file c start ↔ c.queueDepth.toNat ≤ maxCapacity) ∧
    (maxCapacity < c.queueDepth.toNat →
      launch driver clock file c start = .error (.aborted, openingEntries (clock 0) file c) ∧
      ∀ around, (run driver clock around file (.ok c) start).ending = .aborted) := by
  have capacity := capacity_setup driver clock valid
  have aborted (deep : maxCapacity < c.queueDepth.toNat) :
      launch driver clock file c start = .error (.aborted, openingEntries (clock 0) file c) := by
    refine launch_eq_error driver clock file c start (Bool.eq_false_iff.2 fun fits => ?_)
    exact Nat.not_lt.2 ((fits_setup driver clock valid).1 fits) deep
  refine ⟨capacity, ?_, ⟨fun serves => ?_, fun shallow => ?_⟩, fun deep => ⟨aborted deep, fun around => ?_⟩⟩
  · rw [← capacity]
    exact Nat.le_max_right ..
  · exact (fits_setup driver clock valid).1 serves.fits
  · obtain ⟨r, launched, serving⟩ := launch_eq_ok driver clock file c start ((fits_setup driver clock valid).2 shallow)
    refine ⟨⟨r, launched⟩, fun around => ?_, fun moves few => Session.exact _ start moves few⟩
    simp only [run, launched]
    rw [serving.begun.stop_eq]
  · simp only [run, aborted deep]

/-- the longest queue is served -/
theorem serves_iff_longest :
    let c : Config.Agent := { Config.Agent.standard with queueDepth := 2305843009213693951 }
    c.validate = .ok () ∧ c.queueDepth.toNat = maxCapacity ∧
      Serves Scripted.driver (fun _ => .epoch) none c (.fresh .silent) := by
  intro c
  have valid : c.validate = .ok () := validate_deep (by decide)
  have longest : c.queueDepth.toNat = maxCapacity := by decide
  obtain ⟨-, -, served, -⟩ := serves_iff Scripted.driver (fun _ => .epoch) none (.fresh .silent) valid
  exact ⟨valid, longest, served.2 (Nat.le_of_eq longest)⟩

/-- one more than the longest queue is valid, and the run ends before it begins -/
theorem serves_iff_too_deep :
    let c : Config.Agent := { Config.Agent.standard with queueDepth := 2305843009213693952 }
    c.validate = .ok () ∧
      (∀ around, (run Scripted.driver (fun _ => .epoch) around none (.ok c) (.fresh .silent)).ending = .aborted) ∧
      ¬ Serves Scripted.driver (fun _ => .epoch) none c (.fresh .silent) := by
  intro c
  have deep : (setup Scripted.driver (fun _ => .epoch) c).fits = false := by decide
  have aborted := launch_eq_error Scripted.driver (fun _ => .epoch) none c (.fresh .silent) deep
  refine ⟨validate_deep (by decide), fun around => by simp only [run, aborted], fun serves => ?_⟩
  exact Bool.false_ne_true (deep.symm.trans serves.fits)

end Service

end LineTerminal
