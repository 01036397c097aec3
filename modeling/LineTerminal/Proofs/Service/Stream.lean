/-
The audit trail as the program announces it, in front of the filter of a log and behind it.

Every record is announced by one event (`Audit.Record.announces`), whose outcome has another word than the record for an
action in progress only, and which carries the text of the record. `Clean` says that the records of a log are about actions
that have ended, that their details are built from members that come back from a text, and, if the driver keeps off the
target of the audit trail, that the other lines keep off it too. It is proved from the bottom up, with one lemma for each
part of the program that writes:
- `enable_clean`, `serve_clean`: an enable, and any command;
- `step_clean`, `Daemon.run_clean`: any moves of a daemon and its clients;
- `launch_clean`, `stop_clean`: a run up to the point where it serves, and the rest of it.

`events_agree` puts them together. All drivers of the project keep off that target (`discreet_linked`,
`discreet_unlinked`, `discreet_driver`).
-/
import LineTerminal.Driver.Scripted
import LineTerminal.Driver.Vendor
import LineTerminal.Proofs.Audit.Events
import LineTerminal.Proofs.Daemon.Chronicle
import LineTerminal.Proofs.Service.Course

namespace LineTerminal

open Log (Entry Apart records stream)
open Audit (Record)

variable {σ : Type}

/-! ## Drivers -/

/-- a driver that keeps off the target of the audit trail -/
structure Driver.Discreet (d : Driver σ) : Prop where
  hostInit : ∀ ctx s, ∀ l ∈ (d.hostInit ctx s).lines, l.target ≠ .audit
  readConfig : ∀ olt s, ∀ l ∈ (d.readConfig olt s).lines, l.target ≠ .audit
  submit : ∀ olt operation s, ∀ l ∈ (d.submit olt operation s).lines, l.target ≠ .audit

theorem Vendor.discreet_linked (lib : Vendor.Library σ) : (Vendor.linked lib).Discreet where
  hostInit ctx s := by simp [linked, hostInitLine, line]
  readConfig olt s := by
    simp only [linked]
    split <;> simp
  submit olt operation s := by
    simp only [linked]
    split <;> simp [submitLine, line]

theorem Vendor.discreet_unlinked : (Vendor.unlinked : Driver σ).Discreet where
  hostInit ctx s := by simp [unlinked, hostInitLine, unavailableLine, line]
  readConfig olt s := by
    simp only [unlinked]
    split <;> simp
  submit olt operation s := by
    simp only [unlinked]
    split <;> simp [submitLine, line]

theorem Scripted.discreet_driver : Scripted.driver.Discreet where
  hostInit ctx s := by simp [driver]
  readConfig olt s := by simp [driver]
  submit olt operation s := by simp [driver]

/-! ## Logs -/

/-- a log whose records are announced as they are -/
structure Faithful (d : Driver σ) (log : List Entry) : Prop where
  /-- the text that an event carries gives its record back, in a year of four digits -/
  readable : ∀ r ∈ records log, 0 ≤ r.timestamp.date.year ∧ r.timestamp.date.year ≤ 9999 →
    r.Portable ∧ Record.read r.render = .ok r
  /-- no record falls under the exception -/
  ended : ∀ r ∈ records log, r.outcome ≠ .inProgress
  /-- so every flat field repeats its member -/
  agree : ∀ r ∈ records log, ∀ name ∈ Audit.flatFields, r.event.text? name = (Json.object r.members).flatText? name
  /-- the events on the target of the audit trail are those of the records, one for each, in their order -/
  oneEach : d.Discreet → stream log = (records log).map (·.event)
  /-- and behind any filter, those of the records whose level it allows -/
  filtered : d.Discreet → ∀ filter : Log.Filter, ∃ allowed : Log.Level → Bool,
    stream (log.filter (fun e => filter.passes e.event))
      = ((records log).filter (fun r => allowed r.outcome.level)).map (·.event)

/-- a log of work over a driver: all actions have ended, all details are plain, and only the driver may write on the target
of the audit trail -/
structure Clean (d : Driver σ) (log : List Entry) : Prop where
  ended : ∀ r ∈ records log, r.outcome ≠ .inProgress
  plain : ∀ r ∈ records log, r.Plain
  apart : d.Discreet → Apart log

namespace Clean

variable {d : Driver σ} {log more : List Entry}

theorem append (h : Clean d log) (h' : Clean d more) : Clean d (log ++ more) where
  ended r hr := by
    rw [Log.records_append] at hr
    exact (List.mem_append.1 hr).elim (h.ended r) (h'.ended r)
  plain r hr := by
    rw [Log.records_append] at hr
    exact (List.mem_append.1 hr).elim (h.plain r) (h'.plain r)
  apart discreet := Log.apart_append.2 ⟨h.apart discreet, h'.apart discreet⟩

theorem of_lines (noRecord : records log = []) (apart : Apart log) : Clean d log where
  ended r hr := by
    rw [noRecord] at hr
    cases hr
  plain r hr := by
    rw [noRecord] at hr
    cases hr
  apart _ := apart

/-- one record of an action that has ended, among such lines -/
theorem of_record {r : Record} (one : records log = [r]) (ended : r.outcome ≠ .inProgress) (plain : r.Plain)
    (apart : Apart log) : Clean d log where
  ended r' hr := by
    rw [one] at hr
    rw [List.mem_singleton.1 hr]
    exact ended
  plain r' hr := by
    rw [one] at hr
    rw [List.mem_singleton.1 hr]
    exact plain
  apart _ := apart

theorem sublist (h : Clean d log) (part : more.Sublist log) : Clean d more where
  ended r hr := h.ended r ((part.filterMap _).subset hr)
  plain r hr := h.plain r ((part.filterMap _).subset hr)
  apart discreet l hl := h.apart discreet l (part.subset hl)

theorem faithful (h : Clean d log) : Faithful d log where
  readable r hr common := ⟨(h.plain r hr).portable common, (h.plain r hr).read_render common⟩
  ended := h.ended
  agree r hr name listed := ((Audit.Record.announces r).agree name listed).2 fun exception => h.ended r hr exception.2
  oneEach discreet := Log.stream_eq (h.apart discreet)
  filtered discreet filter := by
    obtain ⟨allowed, decides⟩ := Audit.exists_allowed filter
    refine ⟨allowed, ?_⟩
    rw [Log.stream_filter, Log.stream_eq (h.apart discreet), List.filter_map]
    simp only [Function.comp_def, decides]

end Clean

/-! ## An enable -/

namespace Enable

@[simp] theorem apart_line {level : Log.Level} {message : String} {fields : List (String × Log.Value)} {log : List Entry} :
    Apart (line level message fields :: log) ↔ Apart log :=
  Log.apart_of nofun

@[simp] theorem apart_discoverEntries (settings : EnableSettings) (olt : OltId) (answer : Except DriverError OltInfo) :
    Apart (discoverEntries settings olt answer) := by
  unfold discoverEntries
  split
  · simp
  · split
    · simp
    · split <;> simp

@[simp] theorem apart_portEntries (now : Time.Timestamp) (request : Request) (olt : OltId) (pon : PonId)
    (answer : Except DriverError Unit) : Apart (portEntries now request olt pon answer) := by
  cases answer <;> simp [portEntries]

theorem foldl_activatePort_apart {d : Driver σ} (discreet : d.Discreet) (now : Time.Timestamp) (request : Request)
    (olt : OltId) (pons : List PonId) {w : Work σ (List PortReport)} (before : Apart w.log) :
    Apart (pons.foldl (activatePort d now request olt) w).log := by
  induction pons generalizing w with
  | nil => exact before
  | cons pon pons ih =>
    refine ih ?_
    simpa [activatePort, before] using discreet.submit olt (.activatePon pon) w.managed.driver

theorem attempt_apart {d : Driver σ} (discreet : d.Discreet) (now : Time.Timestamp) (request : Request) (found : Found)
    (m : Managed σ) : Apart (attempt d now request found m).log := by
  have ports : Apart (activatePorts d now request m.device.olt found.count m).log :=
    foldl_activatePort_apart discreet now request m.device.olt (interfaces found.count) Log.apart_nil
  simp only [attempt, verdictEntry]
  split <;> simp [ports]

theorem enable_apart {d : Driver σ} (discreet : d.Discreet) (settings : EnableSettings) (now : Time.Timestamp)
    (request : Request) (m : Managed σ) : Apart (enable d settings now request m).log := by
  have host : ∀ l ∈ (hostAnswer d request m).lines, l.target ≠ .audit := discreet.hostInit _ _
  have config : ∀ l ∈ (configAnswer d request m).lines, l.target ≠ .audit := discreet.readConfig _ _
  have course := enable_course d settings now request m
  generalize enable d settings now request m = v at course ⊢
  cases course with
  | unknown other => simp [beginEntry, unknownEntries]
  | hostFailed known e failed => simpa [beginEntry, hostInitEntries] using host
  | readFailed known up e read => simpa [beginEntry] using ⟨host, config⟩
  | attempted known up found read w ports =>
    subst ports
    simpa [beginEntry, attempt_apart discreet] using ⟨host, config⟩

theorem Noted.plain {now : Time.Timestamp} {request : Request} {r : Record} (h : Noted now request r) : r.Plain := by
  cases h with
  | failed category action error listed => exact Audit.Record.plain_of_none rfl
  | port olt pon e =>
    refine Audit.Record.plain_of_leaves rfl fun m hm => ?_
    rcases List.mem_pair.1 hm with rfl | rfl <;> rfl
  | verdict found a l =>
    obtain ⟨outcome, error, -, record⟩ := verdictRecord_eq now request found a l
    rw [record]
    refine Audit.Record.plain_of_leaves rfl fun m hm => ?_
    simp only [List.mem_cons, List.not_mem_nil, or_false] at hm
    rcases hm with rfl | rfl | rfl | rfl | rfl <;> rfl

theorem enable_clean (d : Driver σ) (settings : EnableSettings) (now : Time.Timestamp) (request : Request)
    (m : Managed σ) : Clean d (enable d settings now request m).log where
  ended r hr := (enable_noted d settings now request m r hr).settled.ended
  plain r hr := (enable_noted d settings now request m r hr).plain
  apart discreet := enable_apart discreet settings now request m

end Enable

/-! ## A daemon -/

namespace Daemon

@[simp] theorem apart_line {level : Log.Level} {message : String} {fields : List (String × Log.Value)} {log : List Entry} :
    Apart (line level message fields :: log) ↔ Apart log :=
  Log.apart_of nofun

/-- the records of the daemon itself have one detail -/
theorem plain_of_leaf {r : Record} {name : String} {v : Json} (h : r.details = some (.ofMembers [(name, v)]))
    (leaf : v.isLeaf = true) : r.Plain := by
  refine Audit.Record.plain_of_leaves h fun m hm => ?_
  rw [List.mem_singleton.1 hm]
  exact leaf

theorem perform_plain (s : Setup σ) (now : Time.Timestamp) (command : Command) (m : Managed σ) :
    ∀ r ∈ records (perform s now command m).log, r.Plain := by
  have contributes := perform_contributes s now command m
  generalize records (perform s now command m).log = rs at contributes ⊢
  intro r hr
  cases contributes with
  | enable request => exact (Enable.enable_noted s.driver s.settings now request m r hr).plain
  | status => cases hr
  | activate =>
    rw [List.mem_singleton.1 hr]
    exact plain_of_leaf rfl rfl
  | deactivate =>
    rw [List.mem_singleton.1 hr]
    exact plain_of_leaf rfl rfl
  | shutdown => cases hr

theorem startEntries_clean (s : Setup σ) : Clean s.driver (startEntries s (s.clock 0)) :=
  .of_record (records_startEntries s) nofun (plain_of_leaf rfl rfl) (by simp [startEntries])

theorem stopEntries_clean (s : Setup σ) (now : Time.Timestamp) (m : Managed σ) :
    Clean s.driver (stopEntries s now m) :=
  .of_record (records_stopEntries s now m) nofun (plain_of_leaf rfl rfl) (by simp [stopEntries])

/-- a command leaves a clean log, whether its requester still waits or not -/
theorem serve_clean (s : Setup σ) (now : Time.Timestamp) (command : Command) (present : Bool) (m : Managed σ) :
    Clean s.driver (serve s now command present m).log where
  ended r hr := by
    rw [records_serve] at hr
    exact (perform_record s now command m r hr).1.ended
  plain r hr := by
    rw [records_serve] at hr
    exact perform_plain s now command m r hr
  apart discreet := by
    have performed : Apart (perform s now command m).log := by
      cases command with
      | enable request => exact Enable.enable_apart discreet s.settings now request m
      | status => exact Log.apart_nil
      | activate => simp [perform, overrideEntries]
      | deactivate => simp [perform, overrideEntries]
      | shutdown => simp [perform]
    cases present <;> simp [serve, replyEntry, performed]

/-- **One move.** -/
theorem step_clean {s : Setup σ} {x : Session σ} (h : Clean s.driver x.log) (m : Move) :
    Clean s.driver (x.step s m).log := by
  by_cases carryOut : m = .carryOut
  · subst carryOut
    simp only [Session.step]
    split
    · exact h.append (serve_clean ..)
    · exact h
  · by_cases close : m = .close
    · subst close
      simp only [Session.step]
      split_ifs
      · exact h.append (stopEntries_clean ..)
      · exact h
    · rw [(step_quiet s x m carryOut close).log]
      exact h

/-- **Any moves.** -/
theorem run_clean {s : Setup σ} {x : Session σ} (h : Clean s.driver x.log) (moves : List Move) :
    Clean s.driver (x.run s moves).log := by
  induction moves generalizing x with
  | nil => exact h
  | cons m moves ih => exact ih (step_clean h m)

theorem start_clean (s : Setup σ) (start : σ) (moves : List Move) :
    Clean s.driver ((Session.start s start).run s moves).log :=
  run_clean (startEntries_clean s) moves

theorem send_clean {s : Setup σ} {x : Session σ} (h : Clean s.driver x.log) (t : Ticket) :
    Clean s.driver (x.send s t).log := by
  have sent := step_clean h (.send t.number t.command)
  simp only [Session.send]
  split_ifs
  · exact sent
  · exact step_clean (run_clean sent _) _

theorem ask_clean {s : Setup σ} {x : Session σ} (h : Clean s.driver x.log) (ts : List Ticket) :
    Clean s.driver (x.ask s ts).log := by
  have sent : Clean s.driver (ts.foldl (Session.send s) x).log := by
    induction ts generalizing x with
    | nil => exact h
    | cons t ts ih => exact ih (send_clean h t)
  exact run_clean sent _

end Daemon

/-! ## A whole run -/

namespace Service

open Daemon (Setup Session Move)

@[simp] theorem apart_line {level : Log.Level} {message : String} {fields : List (String × Log.Value)} {log : List Entry} :
    Apart (line level message fields :: log) ↔ Apart log :=
  Log.apart_of nofun

variable {driver : Driver σ}

/-- the configuration of a record has one section -/
theorem loadedRecord_plain (now : Time.Timestamp) (file : Option String) (c : Config.Agent) :
    (loadedRecord now file c).Plain := by
  refine Audit.Record.plain_of_members rfl fun m hm => ?_
  have enable : Json.Kept (Config.encodeEnable c.enable) ∧ (Config.encodeEnable c.enable).nesting ≤ 1 := by
    have leaves : ∀ m ∈ [("fallback_pon_ports", Json.word c.enable.fallbackPonPorts),
        ("config_error_policy", .text c.enable.policy.name)], m.2.isLeaf = true := by
      intro m hm
      rcases List.mem_pair.1 hm with rfl | rfl <;> rfl
    exact ⟨Json.kept_ofMembers fun m hm => Json.kept_of_isLeaf (leaves m hm),
      Json.nesting_ofMembers_le fun m hm => (Json.shallow_of_isLeaf (leaves m hm) 0).2⟩
  simp only [List.mem_cons, List.not_mem_nil, or_false] at hm
  rcases hm with rfl | rfl | rfl | rfl
  · exact Json.shallow_of_isLeaf (Json.isLeaf_optional file) 125
  · exact ⟨enable.1, Nat.le_trans enable.2 (by decide)⟩
  · exact Json.shallow_of_isLeaf rfl 125
  · exact Json.shallow_of_isLeaf rfl 125

theorem openingEntries_clean (now : Time.Timestamp) (file : Option String) (c : Config.Agent) :
    Clean driver (openingEntries now file c) :=
  .of_record (r := loadedRecord now file c) rfl nofun (loadedRecord_plain now file c) (by simp [openingEntries])

theorem verdictEntries_clean (clock : Nat → Time.Timestamp) (c : Config.Agent) (start : σ) :
    Clean driver (verdictEntries driver clock c start) := by
  unfold verdictEntries enabledEntry
  split_ifs
  · exact .of_lines rfl (by simp)
  · exact .of_lines rfl (by simp)
  · exact .of_lines rfl Log.apart_nil

theorem begin_clean (clock : Nat → Time.Timestamp) (c : Config.Agent) (start : σ) :
    Clean driver (begin (setup driver clock c) c start).log := by
  have started : Clean driver (Session.start (setup driver clock c) start).log :=
    Daemon.startEntries_clean (setup driver clock c)
  simp only [begin]
  split_ifs
  · exact Daemon.ask_clean (s := setup driver clock c) started _
  · exact started

/-- what the program has written when it serves, and its daemon -/
theorem launch_clean {clock : Nat → Time.Timestamp} {file : Option String} {c : Config.Agent} {start : σ} {r : Running σ}
    (launched : launch driver clock file c start = .ok r) : Clean driver r.log ∧ Clean driver r.session.log := by
  have begun : Clean driver r.session.log := by
    rw [(launch_serving launched).session]
    exact begin_clean clock c start
  rw [(launch_serving launched).log]
  exact ⟨((openingEntries_clean ..).append begun).append (verdictEntries_clean ..), begun⟩

/-- the rest of a run, whatever the interrupt is like and whatever the clock is after it -/
theorem stop_clean {clock : Nat → Time.Timestamp} {file : Option String} {c : Config.Agent} {start : σ} {r : Running σ}
    (launched : launch driver clock file c start = .ok r) (later : Nat → Time.Timestamp) (around : Surroundings) :
    Clean driver (stop driver later around r).log := by
  obtain ⟨log, session⟩ := launch_clean launched
  let s := setup driver later r.config
  have asked : Clean driver (r.session.ask s [shutdownTicket]).log := Daemon.ask_clean (s := s) session _
  have rest := asked.sublist (List.drop_sublist r.session.log.length _)
  have complete : Clean driver [completeEntry (r.session.ask s [shutdownTicket]).managed.device] :=
    .of_lines rfl (by simp [completeEntry])
  have interrupted : Clean driver [interruptEntry around.interrupt] := by
    cases around.interrupt <;> exact .of_lines rfl (by simp [interruptEntry])
  rw [(launch_serving launched).begun.stop_eq later around]
  simpa [s] using log.append (interrupted.append (rest.append complete))

theorem run_clean (clock : Nat → Time.Timestamp) (around : Surroundings) (file : Option String)
    (config : Except Config.LoadError Config.Agent) (start : σ) :
    Clean driver (run driver clock around file config start).log := by
  cases config with
  | error e => exact .of_lines rfl (by simp [run, refusedEntry])
  | ok c =>
    cases fits : (setup driver clock c).fits with
    | false =>
      simp only [run, launch_eq_error driver clock file c start fits]
      exact openingEntries_clean ..
    | true =>
      obtain ⟨r, launched, -⟩ := launch_eq_ok driver clock file c start fits
      simp only [run, launched]
      exact stop_clean launched clock around

/-! ## Main result -/

/-- **An event says what its record says.** It does so for every record but for the outcome of an action in progress, and no
enable, no daemon with any clients and no run of the program, over any driver, leaves a record of such an action. Every
record that they leave is portable in a year of four digits, so the text in its event gives it back. Over a driver that
keeps off the target of the audit trail there is one event for each record, and a filter leaves those whose level it allows. -/
theorem events_agree :
    (∀ r : Record, stream [.audit r] = [r.event] ∧ Audit.Announces r r.event) ∧
    (∀ {σ : Type} (driver : Driver σ) (settings : EnableSettings) (now : Time.Timestamp) (request : Enable.Request)
      (m : Managed σ), Faithful driver (enable driver settings now request m).log) ∧
    (∀ {σ : Type} (s : Setup σ) (start : σ) (moves : List Move),
      Faithful s.driver ((Session.start s start).run s moves).log) ∧
    (∀ {σ : Type} (driver : Driver σ) (clock : Nat → Time.Timestamp) (around : Surroundings) (file : Option String)
      (config : Except Config.LoadError Config.Agent) (start : σ),
      Faithful driver (run driver clock around file config start).log ∧
      ∀ c r, launch driver clock file c start = .ok r → ∀ later, Faithful driver (stop driver later around r).log) ∧
    (∀ {σ : Type} (lib : Vendor.Library σ), (Vendor.linked lib).Discreet) ∧
    (∀ {σ : Type}, (Vendor.unlinked : Driver σ).Discreet) ∧ Scripted.driver.Discreet := by
  refine ⟨fun r => ⟨Log.stream_eq (by simp), r.announces⟩, fun driver settings now request m => ?_,
    fun s start moves => ?_, fun driver clock around file config start => ⟨?_, fun c r launched later => ?_⟩,
    Vendor.discreet_linked, Vendor.discreet_unlinked, Scripted.discreet_driver⟩
  · exact (Enable.enable_clean driver settings now request m).faithful
  · exact (Daemon.start_clean s start moves).faithful
  · exact (run_clean clock around file config start).faithful
  · exact (stop_clean launched later around).faithful

/-- the standard configuration over a scripted driver: at whatever time the interrupt comes while the program serves, the log
has one event for each record -/
theorem events_agree_standard :
    let start := Scripted.fresh .silent
    ∃ r, launch Scripted.driver (fun _ => .epoch) none .standard start = .ok r ∧ ∀ later around,
      stream (stop Scripted.driver later around r).log
        = (records (stop Scripted.driver later around r).log).map (·.event) := by
  intro start
  obtain ⟨-, -, -, runs, -, -, discreet⟩ := events_agree
  obtain ⟨r, launched, -⟩ := launch_eq_ok Scripted.driver (fun _ => .epoch) none .standard start (by decide)
  refine ⟨r, launched, fun later around => ?_⟩
  obtain ⟨-, served⟩ := runs Scripted.driver (fun _ => .epoch) around none (.ok .standard) start
  exact (served .standard r launched later).oneEach discreet

end Service

end LineTerminal
