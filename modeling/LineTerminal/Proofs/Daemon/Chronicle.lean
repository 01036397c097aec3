/-
The audit trail of a whole session.

Its first record tells that the daemon started. Then come the groups of the commands in the order in which they were carried
out (`Session.groups`), and once the daemon is gone one record that tells that it stopped (`Session.ending`). Nothing else
leaves a record, whatever clients do in between: every move keeps the log to that (`step_chronicle`).

`Chronicle` is what can be read in such a trail: what each command contributes, that every record is about an action that has
ended, and the lifecycle. Reading the records alone, `retold` gives the lifecycle of the device after each of the commands,
the last of them included. `session_chronicle`: every run of a daemon has this trail.
-/
import LineTerminal.Proofs.Daemon.Bookkeeping
import LineTerminal.Proofs.Daemon.Records

namespace LineTerminal.Daemon

open Log (records)
open Audit (Record)

variable {σ : Type}

/-! ## The two records of the daemon itself -/

def startedRecord (s : Setup σ) : Record where
  timestamp := s.clock 0
  category := .systemLifecycle
  source := "AgentDaemon"
  action := "daemon_started"
  outcome := .success
  objectId := some (toString s.deviceId.toNat)
  objectType := some "olt"
  details := some (.object [("command_queue_depth", .natural s.depth)])
  error := none
  correlationId := none

def stoppedRecord (s : Setup σ) (now : Time.Timestamp) (l : Lifecycle) : Record where
  timestamp := now
  category := .systemLifecycle
  source := "AgentDaemon"
  action := "daemon_stopped"
  outcome := .success
  objectId := some (toString s.deviceId.toNat)
  objectType := some "olt"
  details := some (.object [("lifecycle", .text l.name)])
  error := none
  correlationId := none

theorem records_startEntries (s : Setup σ) : records (startEntries s (s.clock 0)) = [startedRecord s] := rfl

theorem records_stopEntries (s : Setup σ) (now : Time.Timestamp) (m : Managed σ) :
    records (stopEntries s now m) = [stoppedRecord s now m.device.lifecycle] := rfl

theorem lifecycle?_startedRecord (s : Setup σ) : (startedRecord s).lifecycle? = none := by
  have details : (startedRecord s).details = some (.object [("command_queue_depth", .natural s.depth)]) := rfl
  simp [Record.lifecycle?, details, Json.member?]

theorem lifecycle?_stoppedRecord (s : Setup σ) (now : Time.Timestamp) (l : Lifecycle) :
    (stoppedRecord s now l).lifecycle? = some l.told :=
  Record.lifecycle?_of_member rfl rfl

namespace Session

def commands (x : Session σ) : List Command := x.done.map (·.command)

/-- what the first `k` commands have made of the device -/
def upTo (s : Setup σ) (driver : σ) (x : Session σ) (k : Nat) : Managed σ :=
  after s 1 x.commands (.fresh driver s.deviceId) k

/-- the records of the commands carried out so far, one group for each -/
def groups (s : Setup σ) (driver : σ) (x : Session σ) : List (List Record) :=
  Daemon.groups s 1 x.commands (.fresh driver s.deviceId)

/-- the record of the end, if the daemon is gone -/
def ending (s : Setup σ) (x : Session σ) : List Record :=
  if x.phase = .gone then [stoppedRecord s (x.now s) x.managed.device.lifecycle] else []

/-- the start, the commands in their order, and the end -/
def trail (s : Setup σ) (driver : σ) (x : Session σ) : List Record :=
  startedRecord s :: (x.groups s driver).flatten ++ x.ending s

end Session

/-- what stands in the audit trail of a session -/
structure Chronicle (s : Setup σ) (driver : σ) (x : Session σ) : Prop where
  whole : records x.log = x.trail s driver
  startedOnce : (records x.log).filter (·.action == "daemon_started") = [startedRecord s]
  stoppedOnce : (records x.log).filter (·.action == "daemon_stopped") = x.ending s
  /-- an override contributes one record, an enable those of its call, a status and a shutdown none -/
  contributed : ∀ (k : Nat) (command : Command), x.commands[k]? = some command →
    ∃ group, (x.groups s driver)[k]? = some group ∧ Contributes s (s.clock (k + 1)) (x.upTo s driver k) command group
  /-- every record is of an action that has ended, and has an error exactly when it failed -/
  settled : ∀ r ∈ records x.log, r.Settled
  /-- the records up to any command tell the lifecycle after it -/
  between : ∀ k, retold Lifecycle.deactivated.told (startedRecord s :: ((x.groups s driver).take k).flatten)
    = (x.upTo s driver k).device.lifecycle.told
  /-- no command changes the lifecycle without a record that tells it -/
  noticed : ∀ k, (x.upTo s driver (k + 1)).device.lifecycle ≠ (x.upTo s driver k).device.lifecycle →
    ∃ group, (x.groups s driver)[k]? = some group ∧
      ∃ r ∈ group, r.lifecycle? = some (x.upTo s driver (k + 1)).device.lifecycle.told
  /-- all records tell the lifecycle that the device has now -/
  rebuilt : retold Lifecycle.deactivated.told (records x.log) = x.managed.device.lifecycle.told
  /-- so does the last one, once the daemon is gone -/
  final : x.phase = .gone → ∃ r, (records x.log).getLast? = some r ∧ r.action = "daemon_stopped" ∧
    r.lifecycle? = some x.managed.device.lifecycle.told
  /-- a record that was left stays, whatever happens afterwards -/
  lasting : ∀ more, records x.log <+: records (x.run s more).log

/-! ## One move -/

theorem records_serve (s : Setup σ) (now : Time.Timestamp) (command : Command) (present : Bool) (m : Managed σ) :
    records (serve s now command present m).log = records (perform s now command m).log := by
  simp only [serve, replyEntry, line, Log.records_append]
  cases present <;> simp

/-- a move that carries nothing out and does not end the daemon -/
structure Session.Quiet (x y : Session σ) : Prop where
  log : y.log = x.log
  served : y.served = x.served
  managed : y.managed = x.managed
  gone : y.phase = .gone ↔ x.phase = .gone

theorem Session.Quiet.refl (x : Session σ) : x.Quiet x := ⟨rfl, rfl, rfl, .rfl⟩

theorem submit_quiet (s : Setup σ) (x : Session σ) (t : Ticket) : x.Quiet (x.submit s t) := by
  unfold Session.submit
  split
  · exact ⟨rfl, rfl, rfl, .rfl⟩
  · split
    · exact ⟨rfl, rfl, rfl, .rfl⟩
    · exact ⟨rfl, rfl, rfl, .rfl⟩

/-- the moves of clients, and that the daemon takes a request, leave no trace in the log -/
theorem step_quiet (s : Setup σ) (x : Session σ) (m : Move) (carryOut : m ≠ .carryOut) (close : m ≠ .close) :
    x.Quiet (x.step s m) := by
  cases m with
  | send number command =>
    simp only [Session.step]
    split_ifs
    · exact .refl x
    · obtain ⟨hl, hs, hm, hg⟩ :=
        submit_quiet s { x with sent := x.sent ++ [(number, command)] } ⟨number, command, true⟩
      exact ⟨hl, hs, hm, hg⟩
  | enter number =>
    simp only [Session.step]
    split_ifs
    · split
      · exact .refl x
      · exact ⟨rfl, rfl, rfl, .rfl⟩
    · exact .refl x
  | leave number => exact ⟨rfl, rfl, rfl, Phase.abandon_eq_gone⟩
  | clone =>
    simp only [Session.step]
    split_ifs
    · exact .refl x
    · exact ⟨rfl, rfl, rfl, .rfl⟩
  | drop => exact ⟨rfl, rfl, rfl, .rfl⟩
  | receive =>
    simp only [Session.step]
    split
    · rename_i hp _
      exact ⟨rfl, rfl, rfl, by simp only [hp, reduceCtorEq]⟩
    · rename_i hp _
      split_ifs
      · exact ⟨rfl, rfl, rfl, by simp only [hp, reduceCtorEq]⟩
      · exact .refl x
    · exact .refl x
  | carryOut => exact absurd rfl carryOut
  | close => exact absurd rfl close

section

variable {s : Setup σ} {driver : σ} {moves : List Move} {x : Session σ}

theorem ending_of_not_gone (h : x.phase ≠ .gone) : x.ending s = [] := if_neg h

theorem groups_carryOut (h : x.managed = (x.serial s driver).managed) (t : Ticket) :
    (x.carryOut s t).groups s driver
      = x.groups s driver ++ [records (perform s (x.now s) t.command x.managed).log] := by
  have commands : (x.carryOut s t).commands = x.commands ++ [t.command] := by
    simp only [Session.commands, Session.done, Session.carryOut, List.map_append, List.map_singleton]
  have length : 1 + x.commands.length = x.served.length + 1 := by
    simp only [Session.commands, Session.done, List.length_map, Nat.add_comm]
  rw [Session.groups, commands, groups_append, length, h]
  rfl

/-- **One move.** -/
theorem step_chronicle (h : x.managed = (x.serial s driver).managed)
    (whole : records x.log = x.trail s driver) (m : Move) :
    records (x.step s m).log = (x.step s m).trail s driver := by
  by_cases carryOut : m = .carryOut
  · subst carryOut
    simp only [Session.step]
    split
    · -- one more command leaves one more group
      rename_i t hp
      have before : x.ending s = [] := ending_of_not_gone (by simp [hp])
      have after : (x.carryOut s t).ending s = [] := by
        refine ending_of_not_gone ?_
        simp only [Session.carryOut]
        split <;> simp
      have log : records (x.carryOut s t).log
          = records x.log ++ records (perform s (x.now s) t.command x.managed).log := by
        simp only [Session.carryOut, Log.records_append, records_serve]
      rw [log, whole, Session.trail, Session.trail, before, after, groups_carryOut h]
      simp only [List.append_nil, List.flatten_append, List.flatten_singleton, List.cons_append]
    · exact whole
  · by_cases close : m = .close
    · subst close
      simp only [Session.step]
      split_ifs with hp
      · -- the daemon goes, and the end is noted
        have before : x.ending s = [] := ending_of_not_gone (by simp [hp])
        have log : records (x.close s).log = records x.log ++ (x.close s).ending s := by
          simp only [Session.close, Log.records_append, records_stopEntries, Session.ending, ↓reduceIte, Session.now]
        rw [log, whole, Session.trail, before, List.append_nil]
        rfl
      · exact whole
    · obtain ⟨hl, hs, hm, hg⟩ := step_quiet s x m carryOut close
      have groups : (x.step s m).groups s driver = x.groups s driver := by
        simp only [Session.groups, Session.commands, Session.done, hs]
      have ending : (x.step s m).ending s = x.ending s := by
        simp only [Session.ending, hg, Session.now, hs, hm]
      rw [hl, whole, Session.trail, Session.trail, groups, ending]

/-- **Any moves.** -/
theorem run_chronicle (h : Inv s driver moves x) (whole : records x.log = x.trail s driver) (part : List Move)
    (hp : ∀ m ∈ part, m ∈ moves) : records (x.run s part).log = (x.run s part).trail s driver := by
  induction part generalizing x with
  | nil => exact whole
  | cons m part ih =>
    exact ih (step_inv h m (hp m List.mem_cons_self)) (step_chronicle h.managed whole m)
      (fun m' hm' => hp m' (List.mem_cons_of_mem _ hm'))

end

/-! ## Reading the trail -/

section

variable (s : Setup σ) (driver : σ) (x : Session σ)

theorem filter_groups {action : String} (h : action = "daemon_started" ∨ action = "daemon_stopped") :
    (x.groups s driver).flatten.filter (·.action == action) = [] := by
  refine List.filter_eq_nil_iff.2 fun r hr => ?_
  obtain ⟨now, command, m, hr⟩ := mem_groups hr
  obtain ⟨-, started, stopped⟩ := perform_record s now command m r hr
  rcases h with rfl | rfl
  · simpa using started
  · simpa using stopped

theorem ending_settled : ∀ r ∈ x.ending s, r.Settled ∧ r.action = "daemon_stopped" := by
  intro r hr
  unfold Session.ending at hr
  split at hr
  · rw [List.mem_singleton.1 hr]
    exact ⟨⟨⟨nofun, nofun⟩, nofun⟩, rfl⟩
  · cases hr

theorem retold_ending : retold x.managed.device.lifecycle.told (x.ending s) = x.managed.device.lifecycle.told := by
  unfold Session.ending
  split
  · simp only [retold, List.foldl_cons, List.foldl_nil, lifecycle?_stoppedRecord, Option.getD_some]
  · rfl

theorem retold_upTo (k : Nat) :
    retold Lifecycle.deactivated.told (startedRecord s :: ((x.groups s driver).take k).flatten)
      = (x.upTo s driver k).device.lifecycle.told := by
  have first : retold Lifecycle.deactivated.told (startedRecord s :: ((x.groups s driver).take k).flatten)
      = retold Lifecycle.deactivated.told ((x.groups s driver).take k).flatten := by
    simp only [retold, List.foldl_cons, lifecycle?_startedRecord, Option.getD_none]
  rw [first, Session.groups, groups_take]
  exact performAll_retold s 1 (x.commands.take k) (.fresh driver s.deviceId)

/-- a command that changes the lifecycle leaves a record that tells it -/
theorem exists_told {k : Nat} (changed : (x.upTo s driver (k + 1)).device.lifecycle ≠ (x.upTo s driver k).device.lifecycle) :
    ∃ group, (x.groups s driver)[k]? = some group ∧
      ∃ r ∈ group, r.lifecycle? = some (x.upTo s driver (k + 1)).device.lifecycle.told := by
  cases hk : x.commands[k]? with
  | none =>
    -- no command stands there, so nothing has changed
    rw [List.getElem?_eq_none_iff] at hk
    rw [Session.upTo, Session.upTo, after_of_length_le hk, after_of_length_le (Nat.le_succ_of_le hk)] at changed
    exact absurd rfl changed
  | some command =>
    have after : x.upTo s driver (k + 1)
        = (perform s (s.clock (1 + k)) command (x.upTo s driver k)).managed := after_succ hk
    have group : (x.groups s driver)[k]?
        = some (records (perform s (s.clock (1 + k)) command (x.upTo s driver k)).log) := groups_getElem? hk
    refine ⟨_, group, ?_⟩
    have told := perform_retold s (s.clock (1 + k)) command (x.upTo s driver k)
    rw [after] at changed ⊢
    rw [← told]
    refine exists_of_retold_ne fun same => changed (Lifecycle.told_injective ?_)
    exact told.symm.trans same

end

/-! ## Main result -/

/-- **The audit trail of a session.** For every driver, every setup, and every order of the moves of any number of clients
and of the daemon. -/
theorem session_chronicle (s : Setup σ) (driver : σ) (moves : List Move) :
    Chronicle s driver ((Session.start s driver).run s moves) := by
  have h := inv_run s driver moves
  have whole := run_chronicle (inv_start s driver moves) (records_startEntries s) moves (fun _ hm => hm)
  generalize (Session.start s driver).run s moves = x at h whole ⊢
  refine {
    whole := whole
    startedOnce := ?_
    stoppedOnce := ?_
    contributed := ?_
    settled := ?_
    between := retold_upTo s driver x
    noticed := fun _ => exists_told s driver x
    rebuilt := ?_
    final := ?_
    lasting := fun more => (run_grows s x more).log.filterMap _ }
  · have ending : (x.ending s).filter (·.action == "daemon_started") = [] :=
      List.filter_eq_nil_iff.2 fun r hr => by simp [(ending_settled s x r hr).2]
    rw [whole, Session.trail, List.filter_append, List.filter_cons_of_pos (by rfl), filter_groups s driver x (.inl rfl), ending]
    rfl
  · have ending : (x.ending s).filter (·.action == "daemon_stopped") = x.ending s :=
      List.filter_eq_self.2 fun r hr => by simp [(ending_settled s x r hr).2]
    rw [whole, Session.trail, List.filter_append, List.filter_cons_of_neg (by simp [startedRecord]),
      filter_groups s driver x (.inr rfl), ending, List.nil_append]
  · intro k command hk
    refine ⟨_, groups_getElem? hk, ?_⟩
    rw [Nat.add_comm 1 k]
    exact perform_contributes ..
  · intro r hr
    rw [whole, Session.trail] at hr
    rcases List.mem_append.1 hr with hr | hr
    · rcases List.mem_cons.1 hr with rfl | hr
      · exact ⟨⟨nofun, nofun⟩, nofun⟩
      · obtain ⟨now, command, m, hr⟩ := mem_groups hr
        exact (perform_record s now command m r hr).1
    · exact (ending_settled s x r hr).1
  · have all := retold_upTo s driver x x.commands.length
    have length : (x.groups s driver).length ≤ x.commands.length := Nat.le_of_eq (length_groups ..)
    have now : x.upTo s driver x.commands.length = x.managed := (after_of_length_le (Nat.le_refl _)).trans h.managed.symm
    rw [List.take_of_length_le length, now] at all
    rw [whole, Session.trail, retold_append, all, retold_ending]
  · intro gone
    refine ⟨stoppedRecord s (x.now s) x.managed.device.lifecycle, ?_, rfl, lifecycle?_stoppedRecord ..⟩
    rw [whole, Session.trail, Session.ending, if_pos gone, List.getLast?_concat]

end LineTerminal.Daemon
