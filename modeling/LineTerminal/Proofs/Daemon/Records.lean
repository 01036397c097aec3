/-
The audit records of commands.

Commands that are done one after another leave one group of records each (`groups`):
- `Contributes` is what a group holds: an enable leaves the records of its call, an override one record of the lifecycle that
  it set, and nothing is left by a status or a shutdown (`perform_contributes`);
- `Noted` lists the records that an enable can leave (`enable_noted`);
- a record is `Settled`: its action has ended, and it carries an error exactly when it failed (`perform_record`).

`retold` reads the lifecycle out of records: each one that has it in its details replaces the one before. Through a command
it follows the device (`perform_retold`), so it does through any number of them (`performAll_retold`).
-/
import LineTerminal.Proofs.Enable.Trail

namespace LineTerminal

open Log (records)
open Audit (Record)

variable {σ : Type}

/-! ## What a record tells -/

def Lifecycle.told (l : Lifecycle) : Json := .text l.name

theorem Lifecycle.told_injective {l k : Lifecycle} (h : l.told = k.told) : l = k := by
  have name : l.name = k.name := Json.text.inj h
  revert name
  cases l <;> cases k <;> decide

def Audit.Record.lifecycle? (r : Record) : Option Json := r.details.bind (Json.member? "lifecycle")

theorem Audit.Record.lifecycle?_of_member {r : Record} {details value : Json} (given : r.details = some details)
    (told : details.member? "lifecycle" = some value) : r.lifecycle? = some value := by
  rw [lifecycle?, given, Option.bind_some, told]

/-- a record of an action that has ended, with an error exactly when it failed -/
structure Audit.Record.Settled (r : Record) : Prop where
  failure : r.outcome = .failure ↔ r.error.isSome = true
  ended : r.outcome ≠ .inProgress

/-- the lifecycle at the end of records, if it was `l` at their beginning -/
def retold (l : Json) (rs : List Record) : Json := rs.foldl (fun l r => r.lifecycle?.getD l) l

theorem retold_append (l : Json) (rs more : List Record) : retold l (rs ++ more) = retold (retold l rs) more :=
  List.foldl_append

theorem retold_eq_self {l : Json} {rs : List Record} (silent : ∀ r ∈ rs, r.lifecycle? = none) : retold l rs = l := by
  induction rs with
  | nil => rfl
  | cons r rs ih =>
    simp only [retold, List.foldl_cons, silent r List.mem_cons_self, Option.getD_none]
    exact ih fun r' hr' => silent r' (List.mem_cons_of_mem _ hr')

/-- a lifecycle that has changed stands in a record -/
theorem exists_of_retold_ne {l : Json} {rs : List Record} (changed : retold l rs ≠ l) :
    ∃ r ∈ rs, r.lifecycle? = some (retold l rs) := by
  induction rs generalizing l with
  | nil => exact absurd rfl changed
  | cons r rs ih =>
    have step : retold l (r :: rs) = retold (r.lifecycle?.getD l) rs := rfl
    by_cases later : retold (r.lifecycle?.getD l) rs = r.lifecycle?.getD l
    · -- nothing changes after this record, so it is the one that tells it
      rw [step, later] at changed ⊢
      cases h : r.lifecycle? with
      | none => rw [h] at changed; exact absurd rfl changed
      | some k => exact ⟨r, List.mem_cons_self, h⟩
    · obtain ⟨r', hr', told⟩ := ih later
      exact ⟨r', List.mem_cons_of_mem _ hr', told⟩

/-! ## The records of an enable -/

namespace Enable

theorem mem_portRecords {now : Time.Timestamp} {request : Request} {olt : OltId} {pons : List PonId}
    {answers : List (Except DriverError Unit)} {r : Record} (h : r ∈ portRecords now request olt pons answers) :
    ∃ pon e, r = portRecord now request olt pon e := by
  obtain ⟨rs, hrs, hr⟩ := List.mem_flatten.1 h
  obtain ⟨i, hi⟩ := List.mem_iff_getElem?.1 hrs
  rw [List.getElem?_zipWith_eq_some] at hi
  obtain ⟨pon, answer, -, -, rfl⟩ := hi
  cases answer with
  | ok u => cases hr
  | error e => exact ⟨pon, e, List.mem_singleton.1 hr⟩

theorem lifecycle?_portRecord (now : Time.Timestamp) (request : Request) (olt : OltId) (pon : PonId) (e : DriverError) :
    (portRecord now request olt pon e).lifecycle? = none := by
  have details : (portRecord now request olt pon e).details
      = some (.ofMembers [("olt", .word olt.raw), ("retryable", .bool e.isRetryable)]) := rfl
  simp [Record.lifecycle?, details, Json.member?_ofMembers]

theorem lifecycle?_verdictRecord (now : Time.Timestamp) (request : Request) (found : Found) (a : Activation)
    (l : Lifecycle) : (verdictRecord now request found a l).lifecycle? = some l.told := by
  obtain ⟨outcome, error, -, record⟩ := verdictRecord_eq now request found a l
  rw [record]
  exact Record.lifecycle?_of_member rfl (by simp [Json.member?_ofMembers, Lifecycle.told])

theorem Concluded.settled {a : Activation} {outcome : Audit.Outcome} {error : Option String}
    (h : Concluded a outcome error) : (outcome = .failure ↔ error.isSome = true) ∧ outcome ≠ .inProgress := by
  cases h with
  | failed => exact ⟨⟨fun _ => rfl, fun _ => rfl⟩, nofun⟩
  | partly => exact ⟨⟨nofun, nofun⟩, nofun⟩
  | entirely => exact ⟨⟨nofun, nofun⟩, nofun⟩

/-- the actions that an enable notes -/
def actions : List String := ["enable", "host_init", "cfg_get", "activate_pon"]

/-- the records that an enable can leave -/
inductive Noted (now : Time.Timestamp) (request : Request) : Record → Prop where
  /-- of an enable that failed before its ports -/
  | failed (category : Audit.Category) (action error : String) (listed : action ∈ actions) :
    Noted now request ((deviceRecord now request category action).change (.error error))
  | port (olt : OltId) (pon : PonId) (e : DriverError) : Noted now request (portRecord now request olt pon e)
  | verdict (found : Found) (a : Activation) (l : Lifecycle) : Noted now request (verdictRecord now request found a l)

theorem attempt_noted (d : Driver σ) (now : Time.Timestamp) (request : Request) (found : Found) (m : Managed σ) :
    ∀ r ∈ records (attempt d now request found m).log, Noted now request r := by
  intro r hr
  rw [attempt_records] at hr
  rcases List.mem_append.1 hr with hr | hr
  · obtain ⟨pon, e, rfl⟩ := mem_portRecords hr
    exact .port _ pon e
  · rw [List.mem_singleton.1 hr]
    exact .verdict ..

/-- only the verdict tells a lifecycle -/
theorem attempt_retold (d : Driver σ) (now : Time.Timestamp) (request : Request) (found : Found) (m : Managed σ)
    (l : Json) : retold l (records (attempt d now request found m).log)
      = (attempt d now request found m).managed.device.lifecycle.told := by
  have silent : ∀ r ∈ portRecords now request m.device.olt (interfaces found.count)
      (d.activations m.device.olt (interfaces found.count) m.driver), r.lifecycle? = none := by
    intro r hr
    obtain ⟨pon, e, rfl⟩ := mem_portRecords hr
    exact lifecycle?_portRecord now request m.device.olt pon e
  rw [attempt_records, retold_append, retold_eq_self silent]
  simp only [retold, List.foldl_cons, List.foldl_nil, lifecycle?_verdictRecord, Option.getD_some]

theorem enable_noted (d : Driver σ) (settings : EnableSettings) (now : Time.Timestamp) (request : Request)
    (m : Managed σ) : ∀ r ∈ records (enable d settings now request m).log, Noted now request r := by
  have course := enable_course d settings now request m
  generalize enable d settings now request m = v at course ⊢
  cases course with
  | unknown other =>
    intro r hr
    rw [List.mem_singleton.1 hr]
    exact .failed .deviceActivation "enable" _ (by decide)
  | hostFailed known e host =>
    rw [records_begun]
    intro r hr
    rw [List.mem_singleton.1 hr]
    exact .failed .balOperation "host_init" _ (by decide)
  | readFailed known host e read =>
    rw [records_begun, records_discovered]
    intro r hr
    rw [List.mem_singleton.1 hr]
    exact .failed .balOperation "cfg_get" _ (by decide)
  | attempted known host found read w ports =>
    rw [records_begun, records_discovered]
    exact ports ▸ attempt_noted d now request found _

theorem Noted.settled {now : Time.Timestamp} {request : Request} {r : Record} (h : Noted now request r) : r.Settled := by
  cases h with
  | failed category action error listed => exact ⟨⟨fun _ => rfl, fun _ => rfl⟩, nofun⟩
  | port olt pon e => exact ⟨⟨fun _ => rfl, fun _ => rfl⟩, nofun⟩
  | verdict found a l =>
    obtain ⟨outcome, error, concluded, record⟩ := verdictRecord_eq now request found a l
    rw [record]
    exact ⟨concluded.settled.1, concluded.settled.2⟩

theorem Noted.listed {now : Time.Timestamp} {request : Request} {r : Record} (h : Noted now request r) :
    r.action ∈ actions := by
  cases h with
  | failed category action error listed => exact listed
  | port olt pon e =>
    show "activate_pon" ∈ actions
    decide
  | verdict found a l =>
    obtain ⟨outcome, error, -, record⟩ := verdictRecord_eq now request found a l
    rw [record]
    show "enable" ∈ actions
    decide

theorem enable_retold (d : Driver σ) (settings : EnableSettings) (now : Time.Timestamp) (request : Request)
    (m : Managed σ) : retold m.device.lifecycle.told (records (enable d settings now request m).log)
      = (enable d settings now request m).managed.device.lifecycle.told := by
  have course := enable_course d settings now request m
  generalize enable d settings now request m = v at course ⊢
  cases course with
  | unknown other => rfl
  | hostFailed known e host =>
    rw [records_begun]
    rfl
  | readFailed known host e read =>
    rw [records_begun, records_discovered]
    rfl
  | attempted known host found read w ports =>
    rw [records_begun, records_discovered]
    exact ports ▸ attempt_retold d now request found _ _

end Enable

namespace Daemon

/-! ## One command -/

def overrideRecord (s : Setup σ) (now : Time.Timestamp) (action : String) (l : Lifecycle) : Record where
  timestamp := now
  category := .adminAction
  source := "AgentDaemon"
  action := action
  outcome := .success
  objectId := some (toString s.deviceId.toNat)
  objectType := some "olt"
  details := some (.object [("lifecycle", .text l.name)])
  error := none
  correlationId := none

/-- the records that a command leaves -/
inductive Contributes (s : Setup σ) (now : Time.Timestamp) (m : Managed σ) : Command → List Record → Prop where
  | enable (request : Enable.Request) :
    Contributes s now m (.enable request) (records (enable s.driver s.settings now request m).log)
  | status : Contributes s now m .status []
  | activate : Contributes s now m .activate [overrideRecord s now "activate" .active]
  | deactivate : Contributes s now m .deactivate [overrideRecord s now "deactivate" .deactivated]
  | shutdown : Contributes s now m .shutdown []

theorem records_overrideEntries (s : Setup σ) (now : Time.Timestamp) (action : String) (m : Managed σ) :
    records (overrideEntries s now action m) = [overrideRecord s now action m.device.lifecycle] := rfl

theorem perform_contributes (s : Setup σ) (now : Time.Timestamp) (command : Command) (m : Managed σ) :
    Contributes s now m command (records (perform s now command m).log) := by
  cases command with
  | enable request => exact .enable request
  | status => exact .status
  | activate =>
    simp only [perform, records_overrideEntries, Device.activate, Device.setLifecycle_lifecycle]
    exact .activate
  | deactivate =>
    simp only [perform, records_overrideEntries, Device.deactivate, Device.setLifecycle_lifecycle]
    exact .deactivate
  | shutdown => exact .shutdown

theorem lifecycle?_overrideRecord (s : Setup σ) (now : Time.Timestamp) (action : String) (l : Lifecycle) :
    (overrideRecord s now action l).lifecycle? = some l.told :=
  Record.lifecycle?_of_member rfl rfl

/-- the records of a command have ended, and none is about the daemon itself -/
theorem perform_record (s : Setup σ) (now : Time.Timestamp) (command : Command) (m : Managed σ) :
    ∀ r ∈ records (perform s now command m).log,
      r.Settled ∧ r.action ≠ "daemon_started" ∧ r.action ≠ "daemon_stopped" := by
  have contributes := perform_contributes s now command m
  generalize records (perform s now command m).log = rs at contributes ⊢
  intro r hr
  cases contributes with
  | enable request =>
    have noted := Enable.enable_noted s.driver s.settings now request m r hr
    have action := noted.listed
    refine ⟨noted.settled, ?_, ?_⟩
    · rintro same
      rw [same] at action
      exact absurd action (by decide)
    · rintro same
      rw [same] at action
      exact absurd action (by decide)
  | status => cases hr
  | activate =>
    rw [List.mem_singleton.1 hr]
    exact ⟨⟨⟨nofun, nofun⟩, nofun⟩, by show "activate" ≠ "daemon_started"; decide,
      by show "activate" ≠ "daemon_stopped"; decide⟩
  | deactivate =>
    rw [List.mem_singleton.1 hr]
    exact ⟨⟨⟨nofun, nofun⟩, nofun⟩, by show "deactivate" ≠ "daemon_started"; decide,
      by show "deactivate" ≠ "daemon_stopped"; decide⟩
  | shutdown => cases hr

/-- **The records of a command tell the lifecycle after it.** -/
theorem perform_retold (s : Setup σ) (now : Time.Timestamp) (command : Command) (m : Managed σ) :
    retold m.device.lifecycle.told (records (perform s now command m).log)
      = (perform s now command m).managed.device.lifecycle.told := by
  cases command with
  | enable request => exact Enable.enable_retold s.driver s.settings now request m
  | status => rfl
  | activate =>
    simp only [perform, records_overrideEntries, retold, List.foldl_cons, List.foldl_nil, lifecycle?_overrideRecord,
      Option.getD_some]
  | deactivate =>
    simp only [perform, records_overrideEntries, retold, List.foldl_cons, List.foldl_nil, lifecycle?_overrideRecord,
      Option.getD_some]
  | shutdown => rfl

/-! ## Commands one after another -/

/-- the records of commands that are done one after another, one group for each -/
def groups (s : Setup σ) : Nat → List Command → Managed σ → List (List Record)
  | _, [], _ => []
  | n, command :: rest, m =>
    let w := perform s (s.clock n) command m
    records w.log :: groups s (n + 1) rest w.managed

theorem length_groups (s : Setup σ) (n : Nat) (commands : List Command) (m : Managed σ) :
    (groups s n commands m).length = commands.length := by
  induction commands generalizing n m with
  | nil => rfl
  | cons command commands ih => simp only [groups, List.length_cons, ih]

theorem groups_append (s : Setup σ) (n : Nat) (before after : List Command) (m : Managed σ) :
    groups s n (before ++ after) m
      = groups s n before m ++ groups s (n + before.length) after (performAll s n before m).managed := by
  induction before generalizing n m with
  | nil => rfl
  | cons command before ih =>
    have hn : n + 1 + before.length = n + (command :: before).length := by rw [List.length_cons]; omega
    simp only [List.cons_append, groups, performAll, ih, hn]

theorem groups_take (s : Setup σ) (n k : Nat) (commands : List Command) (m : Managed σ) :
    (groups s n commands m).take k = groups s n (commands.take k) m := by
  have length : (groups s n (commands.take k) m).length = (commands.take k).length := length_groups ..
  have whole := length_groups s n commands m
  have split := groups_append s n (commands.take k) (commands.drop k) m
  rw [List.take_append_drop] at split
  rw [split] at whole ⊢
  rw [List.take_append, length, List.take_of_length_le, List.length_take]
  · rcases Nat.le_total k commands.length with short | long
    · rw [Nat.min_eq_left short, Nat.sub_self, List.take_zero, List.append_nil]
    · rw [List.drop_of_length_le long, groups, List.take_nil, List.append_nil]
  · rw [length, List.length_take]
    exact Nat.min_le_left ..

/-- what the first `k` of some commands have made of the device -/
def after (s : Setup σ) (n : Nat) (commands : List Command) (m : Managed σ) (k : Nat) : Managed σ :=
  (performAll s n (commands.take k) m).managed

section

variable {s : Setup σ} {n k : Nat} {commands : List Command} {m : Managed σ} {command : Command}

/-- the group of a command is what it leaves after the commands before it -/
theorem groups_getElem? (h : commands[k]? = some command) :
    (groups s n commands m)[k]? = some (records (perform s (s.clock (n + k)) command (after s n commands m k)).log) := by
  induction commands generalizing n k m with
  | nil => cases h
  | cons first commands ih =>
    cases k with
    | zero =>
      cases h
      rfl
    | succ k =>
      have hn : n + 1 + k = n + (k + 1) := by omega
      rw [groups, List.getElem?_cons_succ, ih h, hn]
      rfl

theorem after_succ (h : commands[k]? = some command) :
    after s n commands m (k + 1) = (perform s (s.clock (n + k)) command (after s n commands m k)).managed := by
  obtain ⟨short, -⟩ := List.getElem?_eq_some_iff.1 h
  rw [after, List.take_add_one, h, Option.toList_some, performAll_append, List.length_take,
    Nat.min_eq_left (Nat.le_of_lt short)]
  rfl

/-- behind the last command nothing changes any more -/
theorem after_of_length_le (h : commands.length ≤ k) : after s n commands m k = (performAll s n commands m).managed := by
  rw [after, List.take_of_length_le h]

end

/-- **The records of commands tell the lifecycle after them.** -/
theorem performAll_retold (s : Setup σ) (n : Nat) (commands : List Command) (m : Managed σ) :
    retold m.device.lifecycle.told (groups s n commands m).flatten
      = (performAll s n commands m).managed.device.lifecycle.told := by
  induction commands generalizing n m with
  | nil => rfl
  | cons command commands ih => simp only [groups, performAll, List.flatten_cons, retold_append, perform_retold, ih]

theorem mem_groups {s : Setup σ} {n : Nat} {commands : List Command} {m : Managed σ} {r : Record}
    (h : r ∈ (groups s n commands m).flatten) :
    ∃ now command n, r ∈ records (perform s now command n).log := by
  induction commands generalizing n m with
  | nil => cases h
  | cons command commands ih =>
    rw [groups, List.flatten_cons] at h
    rcases List.mem_append.1 h with h | h
    · exact ⟨_, command, m, h⟩
    · exact ih h

end Daemon

end LineTerminal
