/-
Commands that do not disturb the enables of the managed device.

A `Bystander` reads the status, overrides the lifecycle or asks to enable another device. A run is compared with the run in
which bystanders were inserted, any number of them at any place; the two may have clocks of their own. What the two devices
have to do with each other (`beside`) is kept by an inserted command, because it does not come to the driver, and by a
command of both runs, because an enable reads nothing of the device record but its id (`performAll_inserted`).

`bystanders_harmless`: the replies to the original commands, the calls and the state of the driver, the number of PON ports
and all counters but that of the attempts are the same in both runs, and the attempts differ by the inserted enables. If no
override was inserted (`Quiet`), the device record is the same as well, apart from the clock.
-/
import LineTerminal.Proofs.Daemon.Serial
import LineTerminal.Proofs.Enable.Accounts

namespace LineTerminal.Daemon

variable {σ : Type}

/-! ## Runs with inserted commands -/

/-- a command that does not come to the driver of device `id` -/
inductive Command.Bystander (id : UInt32) : Command → Prop where
  | status : Bystander id .status
  | activate : Bystander id .activate
  | deactivate : Bystander id .deactivate
  | enable (request : Enable.Request) (other : request.deviceId ≠ id) : Bystander id (.enable request)

/-- a bystander that leaves the record of device `id` alone -/
inductive Command.Quiet (id : UInt32) : Command → Prop where
  | status : Quiet id .status
  | enable (request : Enable.Request) (other : request.deviceId ≠ id) : Quiet id (.enable request)

/-- a step of a run over device `id`: an original command, or a bystander that was inserted -/
inductive Step (id : UInt32) where
  | original (command : Command)
  | inserted (command : Command) (bystander : command.Bystander id)

namespace Step

variable {id : UInt32}

def command : Step id → Command
  | original command => command
  | inserted command _ => command

def isInserted : Step id → Bool
  | original _ => false
  | inserted _ _ => true

end Step

def unpadded {id : UInt32} (steps : List (Step id)) : List Command :=
  (steps.filter (!·.isInserted)).map (·.command)

def padded {id : UInt32} (steps : List (Step id)) : List Command := steps.map (·.command)

/-- of the replies to all commands, those to the original ones -/
def unpaddedReplies {id : UInt32} (steps : List (Step id)) (replies : List Reply) : List Reply :=
  ((steps.zip replies).filter (!·.1.isInserted)).map (·.2)

def Command.asks (command : Command) : Bool := command.request?.isSome

def insertedEnables {id : UInt32} (steps : List (Step id)) : Nat :=
  steps.countP fun step => step.command.asks && step.isInserted

/-! ## Two devices side by side -/

/-- two devices over one driver, with the same counters apart from the attempts -/
def beside (device : Device → Device → Prop) : Bond σ σ where
  context := Eq
  driver := Eq
  device := device
  counters c c' := { c with attempts := 0 } = { c' with attempts := 0 }

/-- two records of device `id` with the same number of ports -/
def SamePorts (id : UInt32) (x y : Device) : Prop := x.id = id ∧ y.id = id ∧ x.ponPorts = y.ponPorts

/-- two records of device `id` that are the same apart from the clock -/
def SameRecord (id : UInt32) (x y : Device) : Prop := y.id = id ∧ x.timeless = y.timeless

theorem count_beside (event : Counters → Counters) (h : event ∈ Counters.events) (c c' : Counters)
    (same : { c with attempts := 0 } = { c' with attempts := 0 }) :
    { event c with attempts := 0 } = { event c' with attempts := 0 } := by
  simp only [Counters.mk.injEq, true_and] at same
  obtain ⟨succeeded, hostInitFailures, fallbacks, portFailures⟩ := same
  simp only [Counters.events, List.mem_cons, List.not_mem_nil, or_false] at h
  rcases h with rfl | rfl | rfl | rfl | rfl
  · simp only [Counters.countAttempt, succeeded, hostInitFailures, fallbacks, portFailures]
  · simp only [Counters.countSuccess, succeeded, hostInitFailures, fallbacks, portFailures]
  · simp only [Counters.countHostInitFailure, succeeded, hostInitFailures, fallbacks, portFailures]
  · simp only [Counters.countFallback, succeeded, hostInitFailures, fallbacks, portFailures]
  · simp only [Counters.countPortFailure, succeeded, hostInitFailures, fallbacks, portFailures]

theorem samePorts_kept (d : Driver σ) (id : UInt32) (now now' : Time.Timestamp) :
    (beside (SamePorts id)).Kept d d now now' where
  hostInit := by
    rintro ctx _ s _ rfl rfl
    exact ⟨rfl, rfl⟩
  readConfig := by
    rintro olt s _ rfl
    exact ⟨rfl, rfl⟩
  submit := by
    rintro olt operation s _ rfl
    exact ⟨rfl, rfl⟩
  id x y h := h.1.trans h.2.1.symm
  commit usable ponPorts x y h := by
    obtain ⟨hx, hy, -⟩ := h
    refine ⟨?_, ?_, ?_⟩
    · simp only [Device.commit, Device.setLifecycle_id, hx]
    · simp only [Device.commit, Device.setLifecycle_id, hy]
    · simp only [Device.commit, Device.setLifecycle_ponPorts]
  override l x y h := by
    simpa only [SamePorts, beside, Device.setLifecycle_id, Device.setLifecycle_ponPorts] using h
  count := count_beside

theorem sameRecord_kept (d : Driver σ) (id : UInt32) (now now' : Time.Timestamp) :
    (beside (SameRecord id)).Kept d d now now' where
  hostInit := (samePorts_kept d id now now').hostInit
  readConfig := (samePorts_kept d id now now').readConfig
  submit := (samePorts_kept d id now now').submit
  id x y h := congrArg (·.id) h.2
  commit usable ponPorts x y h := by
    refine ⟨?_, Device.timeless_commit h.2 now now' usable ponPorts⟩
    simp only [Device.commit, Device.setLifecycle_id, h.1]
  override l x y h := by
    refine ⟨?_, Device.timeless_setLifecycle h.2 now now' l⟩
    simp only [Device.setLifecycle_id, h.1]
  count := count_beside

/-! ## One inserted command -/

/-- a command that, done in the second run alone, keeps what the two devices have to do with each other -/
def Harmless (s : Setup σ) (device : Device → Device → Prop) (command : Command) : Prop :=
  ∀ (now : Time.Timestamp) (m n : Managed σ), (beside device).Holds m n →
    (beside device).Holds m (perform s now command n).managed

/-- an enable of another device is counted, and that is all -/
theorem enable_other (d : Driver σ) (settings : EnableSettings) (now : Time.Timestamp) (request : Enable.Request)
    (m : Managed σ) (other : request.deviceId ≠ m.device.id) :
    (enable d settings now request m).managed = { m with counters := m.counters.countAttempt } := by
  simp only [enable, if_neg other]

theorem holds_countAttempt {device : Device → Device → Prop} {m n : Managed σ} (h : (beside device).Holds m n) :
    (beside device).Holds m { n with counters := n.counters.countAttempt } :=
  ⟨h.driver, h.device, h.counters⟩

theorem bystander_harmless (s : Setup σ) {id : UInt32} {command : Command} (bystander : command.Bystander id) :
    Harmless s (SamePorts id) command := by
  intro now m n h
  obtain ⟨hm, hn, ponPorts⟩ := h.device
  cases bystander with
  | status => exact h
  | activate =>
    refine ⟨h.driver, ⟨hm, ?_, ?_⟩, h.counters⟩
    · simp only [perform, Device.activate, Device.setLifecycle_id, hn]
    · simp only [perform, Device.activate, Device.setLifecycle_ponPorts, ponPorts]
  | deactivate =>
    refine ⟨h.driver, ⟨hm, ?_, ?_⟩, h.counters⟩
    · simp only [perform, Device.deactivate, Device.setLifecycle_id, hn]
    · simp only [perform, Device.deactivate, Device.setLifecycle_ponPorts, ponPorts]
  | enable request other =>
    simp only [perform, enable_other _ _ _ _ _ (hn ▸ other)]
    exact holds_countAttempt h

theorem quiet_harmless (s : Setup σ) {id : UInt32} {command : Command} (quiet : command.Quiet id) :
    Harmless s (SameRecord id) command := by
  intro now m n h
  cases quiet with
  | status => exact h
  | enable request other =>
    simp only [perform, enable_other _ _ _ _ _ (h.device.1 ▸ other)]
    exact holds_countAttempt h

/-! ## A run -/

section

variable {s : Setup σ} {id : UInt32}

theorem perform_value_ne_status (now : Time.Timestamp) {command : Command} (m : Managed σ) (h : command ≠ .status)
    (status : Status) : (perform s now command m).value ≠ .status status := by
  cases command with
  | status => exact absurd rfl h
  | enable request => nofun
  | activate => nofun
  | deactivate => nofun
  | shutdown => nofun

/-- **Inserted commands change no other reply.** What both runs keep with every command, and the second run with every
inserted command, they keep throughout. -/
theorem performAll_inserted {device : Device → Device → Prop} (clock' : Nat → Time.Timestamp)
    (both : ∀ now now', (beside device).Kept s.driver s.driver now now') (steps : List (Step id))
    (inserted : ∀ step ∈ steps, step.isInserted = true → Harmless s device step.command) (i j : Nat)
    {m n : Managed σ} (h : (beside device).Holds m n) :
    let v := performAll s i (unpadded steps) m
    let w := performAll (s.under clock') j (padded steps) n
    (beside device).Holds v.managed w.managed ∧
      ∀ (k : Nat) (command : Command), (unpadded steps)[k]? = some command → command ≠ .status →
        (unpaddedReplies steps w.value)[k]? = v.value[k]? := by
  induction steps generalizing i j m n with
  | nil => exact ⟨h, nofun⟩
  | cons step steps ih =>
    have later : ∀ step ∈ steps, step.isInserted = true → Harmless s device step.command :=
      fun step hstep => inserted step (List.mem_cons_of_mem _ hstep)
    cases step with
    | inserted command bystander =>
      -- the first run stays where it is
      have first := inserted (.inserted command bystander) List.mem_cons_self rfl (clock' j) m n h
      exact ih later i (j + 1) first
    | original command =>
      -- both runs do the command, each at its own time
      obtain ⟨value, managed, -⟩ := perform_joins (both (s.clock i) (clock' j)) (Command.Like.refl (fun _ => rfl) command) h
      obtain ⟨final, replies⟩ := ih later (i + 1) (j + 1) managed
      refine ⟨final, ?_⟩
      intro k other hk hother
      cases k with
      | zero =>
        cases hk
        rcases value.eq_or with same | ⟨status, told⟩
        · exact congrArg some same.symm
        · exact absurd told (perform_value_ne_status _ _ hother status)
      | succ k => exact replies k other hk hother

theorem performAll_attempts (s : Setup σ) (i : Nat) (commands : List Command) (m : Managed σ) :
    (performAll s i commands m).managed.counters.attempts
      = m.counters.attempts + (commands.countP (·.asks)).toUInt64 := by
  induction commands generalizing i m with
  | nil => simp [performAll]
  | cons command commands ih =>
    have first : (perform s (s.clock i) command m).managed.counters.attempts
        = m.counters.attempts + (if command.asks then 1 else 0).toUInt64 := by
      cases command with
      | enable request =>
        simp only [perform, enable_counters]
        rfl
      | status => exact (UInt64.add_zero _).symm
      | activate => exact (UInt64.add_zero _).symm
      | deactivate => exact (UInt64.add_zero _).symm
      | shutdown => exact (UInt64.add_zero _).symm
    calc (performAll s (i + 1) commands (perform s (s.clock i) command m).managed).managed.counters.attempts
      _ = (perform s (s.clock i) command m).managed.counters.attempts + (commands.countP (·.asks)).toUInt64 := ih ..
      _ = m.counters.attempts + ((command :: commands).countP (·.asks)).toUInt64 := by
          rw [first, List.countP_cons, UInt64.add_assoc, Nat.toUInt64_eq, Nat.toUInt64_eq, Nat.toUInt64_eq,
            ← UInt64.ofNat_add, Nat.add_comm]

theorem countP_padded (steps : List (Step id)) :
    (padded steps).countP (·.asks) = (unpadded steps).countP (·.asks) + insertedEnables steps := by
  have split := List.countP_eq_countP_filter_add steps (·.command.asks) (!·.isInserted)
  simp only [Bool.not_not] at split
  simp only [padded, unpadded, insertedEnables, List.countP_map]
  rw [← List.countP_filter]
  exact split

end

/-! ## Main result -/

/-- a run `v` of the original commands beside a run `w` with the inserted ones -/
structure Undisturbed {id : UInt32} (steps : List (Step id)) (v w : Work (Journaled σ) (List Reply)) : Prop where
  /-- only the replies that tell the status may differ -/
  replies : ∀ (k : Nat) (command : Command), (unpadded steps)[k]? = some command → command ≠ .status →
    (unpaddedReplies steps w.value)[k]? = v.value[k]?
  calls : w.managed.driver.calls = v.managed.driver.calls
  state : w.managed.driver.state = v.managed.driver.state
  ponPorts : w.managed.device.ponPorts = v.managed.device.ponPorts
  /-- the counters differ in the attempts alone -/
  counters : w.managed.counters = { v.managed.counters with attempts := w.managed.counters.attempts }
  /-- by the inserted enables, as words -/
  attempts : w.managed.counters.attempts = v.managed.counters.attempts + (insertedEnables steps).toUInt64
  /-- and as numbers, as long as the attempts can be counted in a word -/
  numbers : steps.length < 2 ^ 64 →
    w.managed.counters.attempts.toNat = v.managed.counters.attempts.toNat + insertedEnables steps
  /-- if no override was inserted, the records are the same apart from the clock -/
  record : (∀ step ∈ steps, step.isInserted = true → step.command.Quiet id) →
    w.managed.device.timeless = v.managed.device.timeless

theorem Step.bystander {id : UInt32} {step : Step id} (h : step.isInserted = true) : step.command.Bystander id := by
  cases step with
  | original command => cases h
  | inserted command bystander => exact bystander

/-- the attempts of a run from the beginning are its enables -/
theorem performAll_fresh_attempts (s : Setup σ) (commands : List Command) (driver : σ) (id : UInt32)
    (few : commands.length < 2 ^ 64) :
    (performAll s 1 commands (.fresh driver id)).managed.counters.attempts.toNat = commands.countP (·.asks) := by
  have le := List.countP_le_length (p := fun c : Command => c.asks) (l := commands)
  rw [performAll_attempts]
  show (0 + (commands.countP (·.asks)).toUInt64).toNat = _
  rw [UInt64.zero_add, Nat.toUInt64_eq, UInt64.toNat_ofNat_of_lt' (Nat.lt_of_le_of_lt le few)]

theorem eq_of_beside {c c' : Counters} (h : { c with attempts := 0 } = { c' with attempts := 0 }) :
    c' = { c with attempts := c'.attempts } := by
  simp only [Counters.mk.injEq, true_and] at h
  obtain ⟨succeeded, hostInitFailures, fallbacks, portFailures⟩ := h
  simp only [succeeded, hostInitFailures, fallbacks, portFailures]

/-- **Bystanders do no harm.** For every driver, every setup, every two clocks, every commands, and any number of
bystanders inserted at any places. -/
theorem bystanders_harmless (s : Setup σ) (clock' : Nat → Time.Timestamp) (driver : σ) (steps : List (Step s.deviceId)) :
    Undisturbed steps (performAll s.journaled 1 (unpadded steps) (.fresh ⟨driver, []⟩ s.deviceId))
      (performAll (s.journaled.under clock') 1 (padded steps) (.fresh ⟨driver, []⟩ s.deviceId)) := by
  let start : Managed (Journaled σ) := .fresh ⟨driver, []⟩ s.deviceId
  obtain ⟨final, replies⟩ := performAll_inserted (s := s.journaled) clock' (samePorts_kept _ s.deviceId) steps
    (fun _ _ h => bystander_harmless _ (Step.bystander h)) 1 1 (m := start) (n := start)
    ⟨rfl, ⟨rfl, rfl, rfl⟩, rfl⟩
  refine {
    replies := replies
    calls := congrArg (·.calls) final.driver.symm
    state := congrArg (·.state) final.driver.symm
    ponPorts := final.device.2.2.symm
    counters := eq_of_beside final.counters
    attempts := ?_
    numbers := ?_
    record := ?_ }
  · rw [performAll_attempts, performAll_attempts, countP_padded, Nat.toUInt64_eq, UInt64.ofNat_add, UInt64.add_assoc]
  · intro few
    have all : (padded steps).length < 2 ^ 64 := by rw [padded, List.length_map]; exact few
    have own : (unpadded steps).length < 2 ^ 64 := by
      rw [unpadded, List.length_map]
      exact Nat.lt_of_le_of_lt (List.length_filter_le ..) few
    rw [performAll_fresh_attempts _ _ _ _ all, performAll_fresh_attempts _ _ _ _ own, countP_padded]
  · intro quiet
    obtain ⟨final, -⟩ := performAll_inserted (s := s.journaled) clock' (sameRecord_kept _ s.deviceId) steps
      (fun step hstep h => quiet_harmless _ (quiet step hstep h)) 1 1 (m := start) (n := start)
      ⟨rfl, ⟨rfl, rfl⟩, rfl⟩
    exact final.device.2.symm

end LineTerminal.Daemon
