/-
What a scripted driver answers, and what it remembers.

`Scripted.Act` is all that can be done to it: a change of the script or of the journal, or one of the three calls, in any order
and any number of times. Two things are told from the history alone:
- `Ledger` has the codes that were queued for submissions, none of which is ever taken away or moved, and how many of them are
  used up. Only a submission uses a code up, and only if one is left;
- `latest` is what was set last.

`Follows` says what a history leaves behind. A submission is answered by the oldest code that is not used up, and by the
standing code once there is none; the other calls are answered by what was set last. The journal has the calls since it was
last cleared, and the counts are those of the journal. To clear it changes no answer. An enable is nothing but calls, so its
submissions take their codes from the same queue as those of the enables before it.

`script_followed`: every history leaves that behind. A single act is told by `submit_queue`, `act_queue`, `act_script` and
`act_journal`, a history by induction from them.
-/
import Mathlib.Data.List.DropRight
import LineTerminal.Driver.Scripted
import LineTerminal.Proofs.Device.Replay
import LineTerminal.Proofs.Driver.Simulation

namespace LineTerminal

/-! ## Counting calls -/

namespace Call

/-- every call is of one of three kinds -/
theorem countP_kinds (calls : List Call) :
    calls.countP (·.isHostInit) + calls.countP (·.isReadConfig) + calls.countP (·.isSubmit) = calls.length := by
  induction calls with
  | nil => rfl
  | cons call calls ih =>
    rw [List.countP_cons, List.countP_cons, List.countP_cons, List.length_cons, ← ih]
    cases call <;> simp [isHostInit, isReadConfig, isSubmit] <;> omega

theorem filterMap_target? (calls : List Call) :
    (calls.filterMap (·.target?)).map some = (calls.filter (·.isSubmit)).map (·.target?) := by
  induction calls with
  | nil => rfl
  | cons call calls ih =>
    cases call with
    | hostInit requestId => exact ih
    | readConfig olt => exact ih
    | submit olt operation => exact congrArg (some operation.target :: ·) ih

end Call

namespace Scripted

/-! ## Histories -/

inductive Act where
  | change (c : Change)
  | hostInit (ctx : Option RequestContext)
  | readConfig (olt : OltId)
  | submit (olt : OltId) (operation : Operation)
  deriving DecidableEq, Repr

def act (s : Scripted) : Act → Scripted
  | .change c => s.change c
  | .hostInit ctx => (driver.hostInit ctx s).state
  | .readConfig olt => (driver.readConfig olt s).state
  | .submit olt operation => (driver.submit olt operation s).state

def run (s : Scripted) (acts : List Act) : Scripted := acts.foldl act s

/-- the answer to an act; a change has none, and only a read reports something -/
def answer (s : Scripted) : Act → Option (Except DriverError (Option OltInfo))
  | .change _ => none
  | .hostInit ctx => some ((driver.hostInit ctx s).outcome.map fun _ => none)
  | .readConfig olt => some ((driver.readConfig olt s).outcome.map some)
  | .submit olt operation => some ((driver.submit olt operation s).outcome.map fun _ => none)

def answers : Scripted → List Act → List (Option (Except DriverError (Option OltInfo)))
  | _, [] => []
  | s, a :: acts => s.answer a :: answers (s.act a) acts

theorem run_append (s : Scripted) (acts more : List Act) : s.run (acts ++ more) = (s.run acts).run more :=
  List.foldl_append

namespace Act

def call? : Act → Option Call
  | .change _ => none
  | .hostInit ctx => some (.hostInit (requestIdOf ctx))
  | .readConfig olt => some (.readConfig olt)
  | .submit olt operation => some (.submit olt operation)

/-- the act that a call is; a journal keeps no more of a context than the id of its request -/
def ofCall : Call → Act
  | .hostInit requestId => .hostInit (some ⟨requestId, none⟩)
  | .readConfig olt => .readConfig olt
  | .submit olt operation => .submit olt operation

def isSubmit : Act → Bool
  | .submit _ _ => true
  | _ => false

def clears : Act → Bool
  | .change .clearJournal => true
  | _ => false

/-- what an act sets, if it sets the answer to `hostInit` -/
def hostInit? : Act → Option Errno
  | .change (.hostInit e) => some e
  | _ => none

/-- what an act sets, if it sets whether a read succeeds -/
def readConfig? : Act → Option Errno
  | .change (.readConfig e) => some e
  | _ => none

/-- what an act sets, if it sets what a read reports -/
def info? : Act → Option OltInfo
  | .change (.info i) => some i
  | _ => none

/-- what an act sets, if it sets the standing answer to submissions -/
def submit? : Act → Option Errno
  | .change (.submit e) => some e
  | _ => none

/-- the code that an act queues, if it queues one -/
def queued? : Act → Option Errno
  | .change (.submitOnce e) => some e
  | _ => none

end Act

/-! ## What follows from a history -/

/-- the codes that were queued, oldest first, and how many of them are used up -/
structure Ledger where
  queued : List Errno
  used : Nat

namespace Ledger

/-- a submission uses a code up, if one is left; codes are queued behind all others -/
def act (l : Ledger) (a : Act) : Ledger :=
  if a.isSubmit then { l with used := min (l.used + 1) l.queued.length }
  else { l with queued := l.queued ++ a.queued?.toList }

/-- the oldest code that is not used up -/
def next? (l : Ledger) : Option Errno := l.queued[l.used]?

end Ledger

/-- the ledger of a history that begins with a script -/
def ledger (script : Script) (acts : List Act) : Ledger := acts.foldl Ledger.act ⟨script.once, 0⟩

/-- what was set last in a history, or else at its beginning -/
def latest {α : Type} (set? : Act → Option α) (start : α) (acts : List Act) : α :=
  (acts.filterMap set?).getLast?.getD start

/-- the calls of a history since the journal was last cleared -/
def noted (acts : List Act) : List Call := (acts.rtakeWhile (fun a => !a.clears)).filterMap (·.call?)

/-- what a history that begins with a script leaves behind -/
structure Follows (script : Script) (acts : List Act) (s : Scripted) : Prop where
  /-- the oldest code that is not used up, or else the standing code -/
  submit : ∀ olt operation, (driver.submit olt operation s).outcome
    = ((ledger script acts).next?.getD (latest Act.submit? script.submit acts)).result
  hostInit : ∀ ctx, (driver.hostInit ctx s).outcome = (latest Act.hostInit? script.hostInit acts).result
  readConfig : ∀ olt, (driver.readConfig olt s).outcome
    = (latest Act.readConfig? script.readConfig acts).result.map fun _ => latest Act.info? script.info acts
  /-- the codes that are not used up are still there, in their order -/
  queue : s.script.once = (ledger script acts).queued.drop (ledger script acts).used
  /-- a submission takes the first of them -/
  taken : ∀ olt operation, (s.act (.submit olt operation)).script.once = s.script.once.tail
  /-- nothing else takes one, or puts one anywhere but behind the others -/
  kept : ∀ a : Act, a.isSubmit = false → (s.act a).script.once = s.script.once ++ a.queued?.toList
  /-- every call since the journal was last cleared, once and in order, whatever it was answered -/
  journal : s.journal = noted acts
  counts : s.hostInits + s.configReads + s.submissions = s.journal.length
  targets : s.submitted.map some = (s.journal.filter (·.isSubmit)).map (·.target?)
  length : s.submitted.length = s.submissions
  /-- to clear the journal changes no later answer -/
  cleared : ∀ more, (s.act (.change .clearJournal)).answers more = s.answers more
  /-- an enable is some more calls, and all of them are noted -/
  enabled : ∀ (settings : EnableSettings) (now : Time.Timestamp) (request : Enable.Request) (m : Managed Scripted),
    m.driver = s → ∃ calls : List Call,
      (enable driver settings now request m).managed.driver = s.run (calls.map Act.ofCall) ∧
      (enable driver settings now request m).managed.driver.journal = s.journal ++ calls

/-! ## The queue -/

/-- **A submission takes the first code that is queued**, if there is one -/
theorem submit_queue (s : Scripted) (olt : OltId) (operation : Operation) :
    (s.act (.submit olt operation)).script.once = s.script.once.tail := by
  show s.script.nextSubmit.2.once = _
  unfold Script.nextSubmit
  split
  · rename_i empty
    rw [empty, List.tail_nil]
  · rename_i queue
    rw [queue, List.tail_cons]

/-- **No other act takes or moves one**, and a new one is put behind the others -/
theorem act_queue (s : Scripted) {a : Act} (other : a.isSubmit = false) :
    (s.act a).script.once = s.script.once ++ a.queued?.toList := by
  cases a with
  | change c => cases c <;> simp [act, change, Act.queued?]
  | hostInit ctx => exact (List.append_nil _).symm
  | readConfig olt => exact (List.append_nil _).symm
  | submit olt operation => cases other

/-- a queue that a ledger tells: what is not used up is there -/
structure Ledger.Tells (l : Ledger) (queue : List Errno) : Prop where
  queue : queue = l.queued.drop l.used
  used : l.used ≤ l.queued.length

theorem Ledger.Tells.act {l : Ledger} {s : Scripted} (h : l.Tells s.script.once) (a : Act) :
    (l.act a).Tells (s.act a).script.once := by
  obtain ⟨queue, used⟩ := h
  cases submits : a.isSubmit with
  | true =>
    obtain ⟨olt, operation, rfl⟩ : ∃ olt operation, a = .submit olt operation := by
      cases a with
      | submit olt operation => exact ⟨olt, operation, rfl⟩
      | _ => cases submits
    refine ⟨?_, Nat.min_le_right ..⟩
    rw [submit_queue, queue, List.tail_drop]
    exact List.drop_eq_drop_iff.2 (by simp [Ledger.act, Act.isSubmit])
  | false =>
    simp only [Ledger.act, submits, Bool.false_eq_true, if_false]
    refine ⟨?_, ?_⟩
    · rw [act_queue s submits, queue, List.drop_append_of_le_length used]
    · rw [List.length_append]
      exact Nat.le_add_right_of_le used

/-- **The ledger tells the queue**, after any acts. -/
theorem ledger_tells (script : Script) (acts : List Act) :
    (ledger script acts).Tells ((fresh script).run acts).script.once := by
  have start : Ledger.Tells ⟨script.once, 0⟩ (fresh script).script.once := ⟨rfl, Nat.zero_le _⟩
  rw [ledger]
  generalize (⟨script.once, 0⟩ : Ledger) = l at start ⊢
  generalize fresh script = s at start ⊢
  induction acts generalizing l s with
  | nil => exact start
  | cons a acts ih => exact ih _ _ (start.act a)

/-- a submission is answered by the first code that is queued, or else by the standing code -/
theorem submit_outcome (s : Scripted) (olt : OltId) (operation : Operation) :
    (driver.submit olt operation s).outcome = (s.script.once.head?.getD s.script.submit).result := by
  show s.script.nextSubmit.1.result = _
  unfold Script.nextSubmit
  cases s.script.once <;> rfl

/-! ## What was set last -/

/-- **The last act that sets something decides it**, if a single act sets it or leaves it as it is. -/
theorem run_latest {α : Type} (get : Scripted → α) (set? : Act → Option α)
    (one : ∀ s a, get (s.act a) = (set? a).getD (get s)) (s : Scripted) (acts : List Act) :
    get (s.run acts) = latest set? (get s) acts := by
  induction acts generalizing s with
  | nil => rfl
  | cons a acts ih =>
    rw [latest, Daemon.getLast?_filterMap_cons, Option.getD_or, ← one]
    exact ih (s.act a)

/-- what is done to a script but for its queue: an act sets one part, or nothing -/
theorem act_script (s : Scripted) (a : Act) :
    (s.act a).script.hostInit = a.hostInit?.getD s.script.hostInit ∧
    (s.act a).script.readConfig = a.readConfig?.getD s.script.readConfig ∧
    (s.act a).script.info = a.info?.getD s.script.info ∧
    (s.act a).script.submit = a.submit?.getD s.script.submit := by
  cases a with
  | change c => cases c <;> exact ⟨rfl, rfl, rfl, rfl⟩
  | hostInit ctx => exact ⟨rfl, rfl, rfl, rfl⟩
  | readConfig olt => exact ⟨rfl, rfl, rfl, rfl⟩
  | submit olt operation =>
    simp only [act, driver, note, Script.nextSubmit]
    cases s.script.once <;> exact ⟨rfl, rfl, rfl, rfl⟩

/-! ## The journal -/

/-- **One act and the journal.** -/
theorem act_journal (s : Scripted) (a : Act) :
    (s.act a).journal = if a.clears then [] else s.journal ++ a.call?.toList := by
  cases a with
  | change c => cases c <;> simp [act, change, Act.clears, Act.call?]
  | hostInit ctx => rfl
  | readConfig olt => rfl
  | submit olt operation => rfl

/-- **The journal has the calls since it was last cleared**, after any acts. -/
theorem run_journal (script : Script) (acts : List Act) : ((fresh script).run acts).journal = noted acts := by
  induction acts using List.reverseRecOn with
  | nil => rfl
  | append_singleton acts a ih =>
    have last : ((fresh script).run (acts ++ [a])).journal = (((fresh script).run acts).act a).journal := by
      rw [run_append]
      rfl
    rw [last, act_journal, ih, noted, noted, List.rtakeWhile_concat]
    cases a.clears with
    | true => rfl
    | false =>
      simp only [Bool.not_false, if_true, Bool.false_eq_true, if_false, List.filterMap_append]
      cases h : a.call? <;> simp [h]

/-- calls are noted, and nothing is forgotten -/
theorem journal_calls (s : Scripted) (calls : List Call) : (s.run (calls.map Act.ofCall)).journal = s.journal ++ calls := by
  induction calls generalizing s with
  | nil => exact (List.append_nil _).symm
  | cons call calls ih =>
    have first : (s.act (Act.ofCall call)).journal = s.journal ++ [call] := by
      rw [act_journal]
      cases call <;> rfl
    rw [List.append_cons, ← first]
    exact ih (s.act (Act.ofCall call))

/-! ## Answers -/

/-- the answer to an act, and the script after it, depend on the script before it alone -/
theorem answer_congr {s t : Scripted} (h : s.script = t.script) (a : Act) :
    s.answer a = t.answer a ∧ (s.act a).script = (t.act a).script := by
  obtain ⟨script, journal⟩ := s
  obtain ⟨_, other⟩ := t
  cases h
  cases a with
  | change c => cases c <;> exact ⟨rfl, rfl⟩
  | hostInit ctx => exact ⟨rfl, rfl⟩
  | readConfig olt => exact ⟨rfl, rfl⟩
  | submit olt operation => exact ⟨rfl, rfl⟩

/-- **The journal has no part in any answer.** -/
theorem answers_congr {s t : Scripted} (h : s.script = t.script) (acts : List Act) : s.answers acts = t.answers acts := by
  induction acts generalizing s t with
  | nil => rfl
  | cons a acts ih =>
    obtain ⟨answer, script⟩ := answer_congr h a
    rw [answers, answers, answer, ih script]

/-! ## Enables -/

/-- two copies of a scripted driver that has been called some more times -/
def Called (s x y : Scripted) : Prop := x = y ∧ ∃ calls : List Call, x = s.run (calls.map Act.ofCall)

theorem Called.call {s x : Scripted} {calls : List Call} (h : x = s.run (calls.map Act.ofCall)) (call : Call) :
    Called s (x.act (Act.ofCall call)) (x.act (Act.ofCall call)) := by
  refine ⟨rfl, calls ++ [call], ?_⟩
  rw [List.map_append, run_append, ← h]
  rfl

theorem called_alike (s : Scripted) : driver.Alike (Called s) driver where
  hostInit ctx x y h := by
    obtain ⟨rfl, calls, h⟩ := h
    exact ⟨rfl, Called.call h (.hostInit (requestIdOf ctx))⟩
  readConfig olt x y h := by
    obtain ⟨rfl, calls, h⟩ := h
    exact ⟨rfl, Called.call h (.readConfig olt)⟩
  submit olt operation x y h := by
    obtain ⟨rfl, calls, h⟩ := h
    exact ⟨rfl, Called.call h (.submit olt operation)⟩

theorem enable_called (settings : EnableSettings) (now : Time.Timestamp) (request : Enable.Request) (m : Managed Scripted) :
    ∃ calls : List Call, (enable driver settings now request m).managed.driver = m.driver.run (calls.map Act.ofCall) :=
  (enable_alike (called_alike m.driver) settings now request (m := m) (n := m) ⟨⟨rfl, [], rfl⟩, rfl, rfl⟩).managed.driver.2

/-! ## Main result -/

/-- **A scripted driver follows its script and notes every call.** For every script and every history. -/
theorem script_followed (script : Script) (acts : List Act) : Follows script acts ((fresh script).run acts) := by
  have tells := ledger_tells script acts
  have submit := run_latest (·.script.submit) Act.submit? (fun s a => (s.act_script a).2.2.2) (fresh script) acts
  have hostInit := run_latest (·.script.hostInit) Act.hostInit? (fun s a => (s.act_script a).1) (fresh script) acts
  have readConfig := run_latest (·.script.readConfig) Act.readConfig? (fun s a => (s.act_script a).2.1) (fresh script) acts
  have info := run_latest (·.script.info) Act.info? (fun s a => (s.act_script a).2.2.1) (fresh script) acts
  have journal := run_journal script acts
  generalize (fresh script).run acts = s at tells submit hostInit readConfig info journal ⊢
  refine {
    submit := fun olt operation => ?_
    hostInit := fun ctx => congrArg Errno.result hostInit
    readConfig := fun olt => ?_
    queue := tells.queue
    taken := submit_queue s
    kept := fun _ other => act_queue s other
    journal := journal
    counts := Call.countP_kinds s.journal
    targets := Call.filterMap_target? s.journal
    length := ?_
    cleared := fun more => answers_congr (s := s.act (.change .clearJournal)) (t := s) rfl more
    enabled := ?_ }
  · rw [submit_outcome, tells.queue, List.head?_drop, submit]
    rfl
  · show s.script.readConfig.result.map (fun _ => s.script.info) = _
    rw [readConfig, info]
    rfl
  · have targets := congrArg List.length (Call.filterMap_target? s.journal)
    rw [List.length_map, List.length_map, ← List.countP_eq_length_filter] at targets
    exact targets
  · rintro settings now request m rfl
    obtain ⟨calls, driver⟩ := enable_called settings now request m
    exact ⟨calls, driver, by rw [driver, journal_calls]⟩

/-- a code that is queued after the queue has run out is the answer to the next submission -/
example :
    let acts : List Act := [.change (.submitOnce .timeout), .submit ⟨0⟩ (.activatePon ⟨0⟩), .submit ⟨0⟩ (.activatePon ⟨1⟩),
      .change (.submitOnce .noRes), .change (.submit .perm), .change .clearJournal]
    ((fresh .silent).run acts).answers (List.replicate 2 (.submit ⟨0⟩ (.activatePon ⟨2⟩)))
      = [some (.error (.status .noRes)), some (.error (.status .perm))] :=
  rfl

end Scripted

end LineTerminal
