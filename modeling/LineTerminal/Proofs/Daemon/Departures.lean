/-
Requesters that leave once their requests were accepted.

A run is compared with the run in which some requesters stay: the same moves, without the moves by which these requesters
leave. The two runs may have clocks of their own. `Alongside` says what the sessions have to do with each other after any
part of the moves: every request is in the same place, and only whether a requester of `gone` is still there may differ.
- `step_alongside`: a move of both runs keeps it, because the daemon asks whether a requester is there only to log its reply;
- `leave_alongside`: so does a leave that the other run does not have, as long as the request is not waiting for room;
- `not_waiting_of_accepted`: a request that was ever accepted was not waiting for room when its requester left, because a
  request that waits is taken back by that.

What the requesters get is read off the requests that have come to their end (`Alongside.told`). `departures_unnoticed`: at
every time of the run, those who leave make no difference but in their own replies, and a shutdown stops the daemon whether
or not its requester is still there.
-/
import LineTerminal.Driver.Scripted
import LineTerminal.Proofs.Daemon.Chronicle
import LineTerminal.Proofs.Daemon.Contexts
import LineTerminal.Proofs.Daemon.Stopping

namespace LineTerminal

open Log (records)
open Audit (Record)

variable {σ : Type}

/-- a record apart from the clock -/
def Audit.Record.timeless (r : Record) : Record := { r with timestamp := .epoch }

/-- records whose stamps carry one id are the same apart from the clock -/
theorem Audit.map_timeless_twins {first second : Audit.Stamp} (id : first.correlationId = second.correlationId)
    {rs rs' : List Record} (h : List.Forall₂ (Audit.Twins first second) rs rs') :
    rs.map Record.timeless = rs'.map Record.timeless := by
  induction h with
  | nil => rfl
  | cons twins _ ih =>
    obtain ⟨r⟩ := twins
    have same : (r.stamped first).timeless = (r.stamped second).timeless := by
      simp only [Record.timeless, Record.stamped, id]
    rw [List.map_cons, List.map_cons, same, ih]

namespace Daemon

/-! ## Two runs apart from the clock -/

/-- two devices apart from the clock, over one driver and with the same counters -/
def clockAside : Bond σ σ where
  context := Eq
  driver := Eq
  device x y := x.timeless = y.timeless
  counters := Eq

theorem clockAside_kept (d : Driver σ) (now now' : Time.Timestamp) : (clockAside (σ := σ)).Kept d d now now' where
  hostInit := by
    rintro ctx _ s _ rfl rfl
    exact ⟨rfl, rfl⟩
  readConfig := by
    rintro olt s _ rfl
    exact ⟨rfl, rfl⟩
  submit := by
    rintro olt operation s _ rfl
    exact ⟨rfl, rfl⟩
  id _ _ h := congrArg (·.id) h
  commit usable ponPorts _ _ h := Device.timeless_commit h now now' usable ponPorts
  override l _ _ h := Device.timeless_setLifecycle h now now' l
  count event _ _ _ h := congrArg event h

/-! ## Two sessions side by side -/

/-- one request in both runs; only a requester of `gone` may have left the first run alone -/
structure Ticket.Like (gone : List Nat) (t u : Ticket) : Prop where
  label : t.label = u.label
  present : t.present = u.present ∨ t.number ∈ gone ∧ t.present = false

/-- the daemon is at the same place of its loop in both runs -/
inductive Phase.Like (gone : List Nat) : Phase → Phase → Prop where
  | idle : Like gone .idle .idle
  | busy {t u : Ticket} (like : t.Like gone u) : Like gone (.busy t) (.busy u)
  | leaving : Like gone .leaving .leaving
  | gone : Like gone .gone .gone

/-- one request that was carried out in both runs, with its replies -/
structure Answered (σ : Type) (gone : List Nat) (a b : Ticket × Reply) : Prop where
  ticket : a.1.Like gone b.1
  reply : a.2.Like (clockAside (σ := σ)) b.2

/-- a session beside the one in which the requesters of `gone` stay -/
structure Alongside (gone : List Nat) (x y : Session σ) : Prop where
  managed : clockAside.Holds x.managed y.managed
  queue : List.Forall₂ (Ticket.Like gone) x.queue y.queue
  waiting : x.waiting = y.waiting
  phase : x.phase.Like gone y.phase
  handles : x.handles = y.handles
  sent : x.sent = y.sent
  accepted : x.accepted = y.accepted
  served : List.Forall₂ (Answered σ gone) x.served y.served
  dropped : List.Forall₂ (Ticket.Like gone) x.dropped y.dropped
  refused : x.refused = y.refused
  records : (records x.log).map Record.timeless = (records y.log).map Record.timeless

section

variable {gone : List Nat} {t u : Ticket} {p q : Phase}

theorem Ticket.Like.refl (t : Ticket) : t.Like gone t := ⟨rfl, .inl rfl⟩

theorem Ticket.Like.number (h : t.Like gone u) : t.number = u.number := congrArg (·.1) h.label

theorem Ticket.Like.command (h : t.Like gone u) : t.command = u.command := congrArg (·.2) h.label

theorem Ticket.Like.abandon (h : t.Like gone u) (n : Nat) : (t.abandon n).Like gone (u.abandon n) := by
  refine ⟨by rw [Ticket.label_abandon, Ticket.label_abandon, h.label], ?_⟩
  unfold Ticket.abandon
  rw [← h.number]
  split_ifs
  · exact .inl rfl
  · exact h.present

/-- a requester of `gone` leaves in one run alone -/
theorem Ticket.Like.abandon_left (h : t.Like gone u) {n : Nat} (hn : n ∈ gone) : (t.abandon n).Like gone u := by
  refine ⟨by rw [Ticket.label_abandon, h.label], ?_⟩
  unfold Ticket.abandon
  split_ifs with same
  · exact .inr ⟨same ▸ hn, rfl⟩
  · exact h.present

theorem Phase.Like.refl (p : Phase) : p.Like gone p := by
  cases p with
  | idle => exact .idle
  | busy t => exact .busy (.refl t)
  | leaving => exact .leaving
  | gone => exact .gone

theorem Phase.Like.abandon (h : p.Like gone q) (n : Nat) : (p.abandon n).Like gone (q.abandon n) := by
  cases h with
  | idle => exact .idle
  | busy like => exact .busy (like.abandon n)
  | leaving => exact .leaving
  | gone => exact .gone

theorem Phase.Like.abandon_left (h : p.Like gone q) {n : Nat} (hn : n ∈ gone) : (p.abandon n).Like gone q := by
  cases h with
  | idle => exact .idle
  | busy like => exact .busy (like.abandon_left hn)
  | leaving => exact .leaving
  | gone => exact .gone

theorem Phase.Like.leaving_iff (h : p.Like gone q) : p = .leaving ↔ q = .leaving := by
  cases h <;> simp

theorem Phase.Like.gone_iff (h : p.Like gone q) : p = .gone ↔ q = .gone := by
  cases h <;> simp

end

section

variable {gone : List Nat} {s : Setup σ} {clock' : Nat → Time.Timestamp} {x y : Session σ}

theorem alongside_start (s : Setup σ) (clock' : Nat → Time.Timestamp) (gone : List Nat) (driver : σ) :
    Alongside gone (.start s driver) (.start (s.under clock') driver) where
  managed := ⟨rfl, rfl, rfl⟩
  queue := .nil
  waiting := rfl
  phase := .idle
  handles := rfl
  sent := rfl
  accepted := rfl
  served := .nil
  dropped := .nil
  refused := rfl
  records := rfl

/-! ## One move -/

theorem Alongside.accept (h : Alongside gone x y) {t u : Ticket} (like : t.Like gone u) :
    Alongside gone (x.accept t) (y.accept u) :=
  { h with
    queue := List.rel_append h.queue (.cons like .nil)
    accepted := by rw [Session.accept, Session.accept, h.accepted, like.label] }

theorem Alongside.submit (h : Alongside gone x y) (t : Ticket) :
    Alongside gone (x.submit s t) (y.submit (s.under clock') t) := by
  have away : x.phase = .gone ↔ y.phase = .gone := h.phase.gone_iff
  have room : x.queue.length < s.capacity ↔ y.queue.length < (s.under clock').capacity := by
    rw [h.queue.length_eq]
    rfl
  simp only [Session.submit, away, room]
  split_ifs
  · exact { h with refused := congrArg (· ++ [t]) h.refused }
  · exact h.accept (.refl t)
  · exact { h with waiting := congrArg (· ++ [t]) h.waiting }

/-- the records of a command carry one id, whenever it is carried out -/
theorem Command.correlationId_stamp (command : Command) (now now' : Time.Timestamp) :
    (command.stamp now).correlationId = (command.stamp now').correlationId := by
  cases command <;> rfl

theorem Alongside.carryOut (h : Alongside gone x y) {t u : Ticket} (like : t.Like gone u) :
    Alongside gone (x.carryOut s t) (y.carryOut (s.under clock') u) := by
  have work : clockAside.Joins (Reply.Like clockAside) (t.command.stamp (x.now s))
      (t.command.stamp (y.now (s.under clock'))) (perform s (x.now s) t.command x.managed)
      (perform (s.under clock') (y.now (s.under clock')) t.command y.managed) :=
    perform_joins (clockAside_kept s.driver _ _) (.refl (fun _ => rfl) t.command) h.managed
  have trail : (Log.records (serve s (x.now s) t.command t.present x.managed).log).map Record.timeless
      = (Log.records (serve (s.under clock') (y.now (s.under clock')) t.command u.present y.managed).log).map
          Record.timeless := by
    rw [records_serve, records_serve]
    exact Audit.map_timeless_twins (t.command.correlationId_stamp _ _) work.records
  simp only [Session.carryOut, ← like.command]
  exact { h with
    managed := work.managed
    phase := Phase.Like.refl _
    served := List.rel_append h.served (.cons ⟨like, work.value⟩ .nil)
    records := by rw [Log.records_append, Log.records_append, List.map_append, List.map_append, h.records, trail] }

theorem Alongside.close (h : Alongside gone x y) : Alongside gone (x.close s) (y.close (s.under clock')) := by
  have lifecycle : x.managed.device.lifecycle = y.managed.device.lifecycle :=
    congrArg (·.lifecycle) h.managed.device
  exact { h with
    queue := .nil
    waiting := rfl
    phase := .gone
    dropped := List.rel_append h.dropped h.queue
    refused := by rw [Session.close, Session.close, h.refused, h.waiting]
    records := by
      simp only [Session.close, Log.records_append, List.map_append, h.records, records_stopEntries, List.map_singleton,
        stoppedRecord, lifecycle, Record.timeless, Setup.under] }

/-- **A move of both runs.** -/
theorem step_alongside (h : Alongside gone x y) (m : Move) :
    Alongside gone (x.step s m) (y.step (s.under clock') m) := by
  have phase := h.phase
  generalize hx : x.phase = p at phase
  generalize hy : y.phase = q at phase
  cases m with
  | send number command =>
    have heard : (x.handles = 0 ∨ number ∈ x.sent.map (·.1)) ↔ (y.handles = 0 ∨ number ∈ y.sent.map (·.1)) := by
      rw [h.handles, h.sent]
    have sent : Alongside gone { x with sent := x.sent ++ [(number, command)] }
        { y with sent := y.sent ++ [(number, command)] } :=
      { h with sent := congrArg (· ++ [(number, command)]) h.sent }
    simp only [Session.step, heard]
    split_ifs
    · exact h
    · exact sent.submit _
  | enter number =>
    have room : x.queue.length < s.capacity ↔ y.queue.length < (s.under clock').capacity := by
      rw [h.queue.length_eq]
      rfl
    have entered (t : Ticket) : Alongside gone { x with waiting := x.waiting.erase t }
        { y with waiting := y.waiting.erase t } :=
      { h with waiting := congrArg (·.erase t) h.waiting }
    simp only [Session.step, room, h.waiting] at entered ⊢
    split_ifs
    · split
      · exact h
      · exact (entered _).accept (.refl _)
    · exact h
  | leave number =>
    -- a requester outside `gone`, or one of `gone` that leaves in both runs
    refine { h with queue := ?_, waiting := ?_, phase := h.phase.abandon number }
    · exact List.rel_map (fun _ _ like => like.abandon number) h.queue
    · simp only [Session.step, h.waiting]
  | clone =>
    have more : Alongside gone { x with handles := x.handles + 1 } { y with handles := y.handles + 1 } :=
      { h with handles := congrArg (· + 1) h.handles }
    simp only [Session.step, h.handles] at more ⊢
    split_ifs
    · exact h
    · exact more
  | drop => exact { h with handles := congrArg (· - 1) h.handles }
  | receive =>
    cases phase with
    | idle =>
      have nobody : (x.handles = 0 ∧ x.waiting = []) ↔ (y.handles = 0 ∧ y.waiting = []) := by
        rw [h.handles, h.waiting]
      have queue := h.queue
      generalize qx : x.queue = ts at queue
      generalize qy : y.queue = us at queue
      cases queue with
      | nil =>
        simp only [Session.step, hx, hy, qx, qy, nobody]
        split_ifs
        · exact { h with queue := .nil, phase := .leaving }
        · exact h
      | cons like rest =>
        simp only [Session.step, hx, hy, qx, qy]
        exact { h with queue := rest, phase := .busy like }
    | busy like =>
      simp only [Session.step, hx, hy]
      exact h
    | leaving =>
      simp only [Session.step, hx, hy]
      exact h
    | gone =>
      simp only [Session.step, hx, hy]
      exact h
  | carryOut =>
    cases phase with
    | busy like =>
      simp only [Session.step, hx, hy]
      exact h.carryOut like
    | idle =>
      simp only [Session.step, hx, hy]
      exact h
    | leaving =>
      simp only [Session.step, hx, hy]
      exact h
    | gone =>
      simp only [Session.step, hx, hy]
      exact h
  | close =>
    have leaving := h.phase.leaving_iff
    simp only [Session.step, leaving]
    split_ifs
    · exact h.close
    · exact h

/-- a leave that the other run does not have; the request must not be waiting for room -/
theorem leave_alongside (h : Alongside gone x y) {n : Nat} (hn : n ∈ gone) (inside : ∀ t ∈ x.waiting, t.number ≠ n) :
    Alongside gone (x.step s (.leave n)) y := by
  refine { h with queue := ?_, waiting := ?_, phase := h.phase.abandon_left hn }
  · exact List.forall₂_map_left_iff.2 (h.queue.imp fun _ _ like => like.abandon_left hn)
  · have all : x.waiting.filter (·.number != n) = x.waiting :=
      List.filter_eq_self.2 fun t ht => bne_iff_ne.2 (inside t ht)
    rw [← h.waiting]
    exact all

/-! ## Any moves -/

def Move.leaves (gone : List Nat) : Move → Bool
  | .leave n => gone.contains n
  | _ => false

/-- the moves of the run in which the requesters of `gone` stay -/
def staying (gone : List Nat) (moves : List Move) : List Move := moves.filter (fun m => !m.leaves gone)

/-- **Any moves**, as long as no request of `gone` was waiting for room when its requester left. -/
theorem run_alongside (h : Alongside gone x y) (moves : List Move)
    (inside : ∀ before n after, moves = before ++ .leave n :: after → n ∈ gone →
      ∀ t ∈ (x.run s before).waiting, t.number ≠ n) :
    Alongside gone (x.run s moves) (y.run (s.under clock') (staying gone moves)) := by
  induction moves generalizing x y with
  | nil => exact h
  | cons m moves ih =>
    have later : ∀ before n after, moves = before ++ .leave n :: after → n ∈ gone →
        ∀ t ∈ ((x.step s m).run s before).waiting, t.number ≠ n :=
      fun before n after split => inside (m :: before) n after (congrArg (m :: ·) split)
    -- the other run has the move, unless a requester of `gone` leaves by it
    cases left : m.leaves gone with
    | false =>
      rw [staying, List.filter_cons_of_pos (by rw [left]; rfl)]
      exact ih (step_alongside h m) later
    | true =>
      rw [staying, List.filter_cons_of_neg (by rw [left]; decide)]
      refine ih ?_ later
      cases m with
      | leave n =>
        have hn : n ∈ gone := List.contains_iff_mem.1 left
        exact leave_alongside h hn (inside [] n moves rfl hn)
      | _ => cases left

/-- a request that was accepted in the end was not waiting for room when its requester left -/
theorem not_waiting_of_accepted (s : Setup σ) (driver : σ) {moves before after : List Move} {n : Nat}
    (split : moves = before ++ .leave n :: after)
    (accepted : n ∈ ((Session.start s driver).run s moves).accepted.map (·.1)) :
    ∀ t ∈ ((Session.start s driver).run s before).waiting, t.number ≠ n := by
  intro t ht same
  have h := inv_run s driver moves
  have withdrawn : t ∈ ((Session.start s driver).run s moves).withdrawn := by
    rw [split, Session.run, List.foldl_append, List.foldl_cons]
    refine (run_grows s _ after).withdrawn.subset (List.mem_append_right _ ?_)
    exact List.mem_filter.2 ⟨ht, beq_iff_eq.2 same⟩
  -- it was taken back, so it stands outside, and no number stands both inside and outside
  rw [h.order, List.map_map] at accepted
  obtain ⟨u, hu, number⟩ := List.mem_map.1 accepted
  have numbers := h.nodup_placed
  rw [Session.placed, List.map_append] at numbers
  have outside : t ∈ ((Session.start s driver).run s moves).outside := List.mem_append_right _ withdrawn
  exact (List.nodup_append.1 numbers).2.2 _ (List.mem_map_of_mem hu) _ (List.mem_map_of_mem outside)
    (number.trans same.symm)

/-! ## What requesters get -/

/-- the requests that have come to their end, each with the answer that belongs to it -/
def Session.answers (x : Session σ) : List (Ticket × Except Refusal Reply) :=
  x.served.map (fun a => (a.1, .ok a.2)) ++ x.dropped.map (·, .error .noReply) ++ x.refused.map (·, .error .queueClosed)

/-- a requester that is still there gets the answer -/
theorem mem_replies {n : Nat} {a : Except Refusal Reply} :
    (n, a) ∈ x.replies ↔ ∃ t, (t, a) ∈ x.answers ∧ t.present = true ∧ t.number = n := by
  have replies : x.replies = (x.answers.filter (·.1.present)).map (fun a => (a.1.number, a.2)) := by
    simp only [Session.replies, Session.answers, List.filter_append, List.filter_map, List.map_append, List.map_map]
    rfl
  simp only [replies, List.mem_map, List.mem_filter, Prod.mk.injEq, Prod.exists]
  constructor
  · rintro ⟨t, b, ⟨mem, present⟩, number, rfl⟩
    exact ⟨t, mem, present, number⟩
  · rintro ⟨t, mem, present, number⟩
    exact ⟨t, a, ⟨mem, present⟩, number, rfl⟩

/-- one request in both runs, and answers that are the same apart from the clock -/
structure Ended (gone : List Nat) (a b : Ticket × Except Refusal Reply) : Prop where
  ticket : a.1.Like gone b.1
  answer : a.2.map Reply.timeless = b.2.map Reply.timeless

theorem Alongside.answers (h : Alongside gone x y) : List.Forall₂ (Ended gone) x.answers y.answers := by
  have served : List.Forall₂ (Ended gone) (x.served.map fun a => (a.1, .ok a.2)) (y.served.map fun a => (a.1, .ok a.2)) := by
    refine List.rel_map (fun a b like => ⟨like.ticket, ?_⟩) h.served
    exact congrArg Except.ok (like.reply.timeless (fun _ _ h => h) (fun _ _ h => h))
  have dropped : List.Forall₂ (Ended gone) (x.dropped.map (·, .error .noReply)) (y.dropped.map (·, .error .noReply)) :=
    List.rel_map (fun _ _ like => ⟨like, rfl⟩) h.dropped
  have refused : List.Forall₂ (Ended gone) (x.refused.map (·, .error .queueClosed))
      (y.refused.map (·, .error .queueClosed)) := by
    rw [h.refused]
    exact List.forall₂_same.2 fun a _ => ⟨.refl a.1, rfl⟩
  exact List.rel_append (List.rel_append served dropped) refused

theorem exists_mem_of_forall₂ {α β : Type} {rel : α → β → Prop} {as : List α} {bs : List β} (h : List.Forall₂ rel as bs)
    {a : α} (ha : a ∈ as) : ∃ b ∈ bs, rel a b := by
  induction h with
  | nil => cases ha
  | cons first _ ih =>
    rcases List.mem_cons.1 ha with rfl | ha
    · exact ⟨_, List.mem_cons_self, first⟩
    · obtain ⟨b, hb, later⟩ := ih ha
      exact ⟨b, List.mem_cons_of_mem _ hb, later⟩

/-- what a requester got, apart from the clock -/
def Session.told? (x : Session σ) (number : Nat) : Option (Except Refusal Reply) :=
  (x.reply? number).map (·.map Reply.timeless)

/-- **Only the replies to the requesters of `gone` may differ**, because these get none. -/
theorem Alongside.told (h : Alongside gone x y) {driver driver' : σ} {moves moves' : List Move} {e : Setup σ}
    (hx : Inv s driver moves x) (hy : Inv e driver' moves' y) (n : Nat) :
    x.told? n = y.told? n ∨ n ∈ gone ∧ x.reply? n = none := by
  unfold Session.told?
  -- who got an answer in the first run was still there in it, and so in the second
  cases given : x.reply? n with
  | some a =>
    obtain ⟨t, mem, present, rfl⟩ := mem_replies.1 ((hx.reply?_eq_some n a).1 given)
    obtain ⟨⟨u, b⟩, other, ended⟩ := exists_mem_of_forall₂ h.answers mem
    have there : u.present = true := by
      rcases ended.ticket.present with same | ⟨-, left⟩
      · exact same.symm.trans present
      · exact absurd (left.symm.trans present) Bool.false_ne_true
    left
    rw [(hy.reply?_eq_some _ b).2 (mem_replies.2 ⟨u, other, there, ended.ticket.number.symm⟩)]
    exact congrArg some ended.answer
  | none =>
    cases stays : y.reply? n with
    | none => exact .inl rfl
    | some b =>
      obtain ⟨u, mem, present, rfl⟩ := mem_replies.1 ((hy.reply?_eq_some n b).1 stays)
      obtain ⟨⟨t, a⟩, other, ended⟩ := exists_mem_of_forall₂ h.answers.flip mem
      have number : t.number = u.number := ended.ticket.number
      rcases ended.ticket.present with same | ⟨away, -⟩
      · have got := (hx.reply?_eq_some _ a).2 (mem_replies.2 ⟨t, other, same.trans present, number⟩)
        rw [given] at got
        cases got
      · exact .inr ⟨number ▸ away, rfl⟩

/-! ## Main result -/

/-- a session in which the requesters of `gone` leave, beside the one in which they stay -/
structure Unnoticed (gone : List Nat) (x y : Session (Journaled σ)) : Prop where
  /-- the queue accepts the same requests -/
  accepted : x.accepted = y.accepted
  /-- the daemon carries out the same ones, in the same order -/
  done : x.done.map Ticket.label = y.done.map Ticket.label
  /-- and drops the same ones when it goes -/
  dropped : x.dropped.map Ticket.label = y.dropped.map Ticket.label
  calls : x.managed.driver.calls = y.managed.driver.calls
  state : x.managed.driver.state = y.managed.driver.state
  device : x.managed.device.timeless = y.managed.device.timeless
  counters : x.managed.counters = y.managed.counters
  records : (records x.log).map Record.timeless = (records y.log).map Record.timeless
  /-- everybody is told the same, but who has left may be told nothing -/
  told : ∀ n, x.told? n = y.told? n ∨ n ∈ gone ∧ x.reply? n = none
  /-- the daemon leaves its loop at the same request -/
  leaving : x.phase = .leaving ↔ y.phase = .leaving
  away : x.phase = .gone ↔ y.phase = .gone

/-- a shutdown stops the daemon, whether or not its requester is still there -/
structure Stops (s : Setup σ) (x : Session σ) : Prop where
  /-- it is the last request that is carried out -/
  last : ∀ t ∈ x.done, t.command.stops = true → x.done.getLast? = some t ∧ (x.phase = .leaving ∨ x.phase = .gone)
  /-- once the daemon is gone, everything before the first shutdown has been carried out, and the shutdown itself -/
  cut : x.phase = .gone → x.done.map Ticket.label = throughShutdown x.accepted
  /-- the daemon does go when a shutdown was accepted -/
  goes : (∃ l ∈ x.accepted, l.2.stops = true) →
    (x.run s (List.replicate (x.queue.length + 2) Session.turn).flatten).phase = .gone

theorem map_label_eq {ts us : List Ticket} (h : List.Forall₂ (Ticket.Like gone) ts us) :
    ts.map Ticket.label = us.map Ticket.label := by
  induction h with
  | nil => rfl
  | cons first _ ih => rw [List.map_cons, List.map_cons, first.label, ih]

theorem Inv.stops {driver : σ} {moves : List Move} (h : Inv s driver moves x) : Stops s x where
  last := by
    intro t ht stops
    have served : Stopped x.done := by
      rcases h.stage.unstopped_or_stopped with unstopped | stopped
      · exact absurd ((unstopped t ht).symm.trans stops) Bool.false_ne_true
      · exact stopped
    obtain ⟨before, last, done, unstopped, -⟩ := served
    have same : t = last := by
      rw [done] at ht
      rcases List.mem_append.1 ht with ht | ht
      · exact absurd ((unstopped t ht).symm.trans stops) Bool.false_ne_true
      · exact List.mem_singleton.1 ht
    refine ⟨by rw [done, List.getLast?_concat, same], ?_⟩
    by_contra serving
    obtain ⟨leaving, gone⟩ := not_or.1 serving
    exact Bool.false_ne_true (((h.stage.serving_inv leaving gone).1 t ht).symm.trans stops)
  cut := h.done_eq_throughShutdown
  goes accepted := turns_gone s (h.due (.inl accepted)) _ (Nat.lt_succ_of_le (length_ahead_le x))

end

/-- **Who leaves after acceptance makes no difference but for the own reply.** For every driver, every setup, any two
clocks and any order of moves: `gone` are any requesters whose requests the queue accepts in the run, and the other run has
the same moves without those by which they leave. At every time of the run, the two sessions differ in nothing else. -/
theorem departures_unnoticed (s : Setup σ) (clock' : Nat → Time.Timestamp) (driver : σ) (gone : List Nat)
    (moves : List Move)
    (accepted : ∀ n ∈ gone, n ∈ ((Session.start s.journaled ⟨driver, []⟩).run s.journaled moves).accepted.map (·.1)) :
    ∀ before after, moves = before ++ after →
      let x := (Session.start s.journaled ⟨driver, []⟩).run s.journaled before
      let stays := s.journaled.under clock'
      Unnoticed gone x ((Session.start stays ⟨driver, []⟩).run stays (staying gone before)) ∧ Stops s.journaled x := by
  intro before after split x stays
  have inside : ∀ first n rest, before = first ++ .leave n :: rest → n ∈ gone →
      ∀ t ∈ ((Session.start s.journaled ⟨driver, []⟩).run s.journaled first).waiting, t.number ≠ n := by
    intro first n rest parts hn
    have whole : moves = first ++ .leave n :: (rest ++ after) := by
      rw [split, parts, List.append_assoc, List.cons_append]
    exact not_waiting_of_accepted s.journaled ⟨driver, []⟩ whole (accepted n hn)
  have h : Alongside gone x ((Session.start stays ⟨driver, []⟩).run stays (staying gone before)) :=
    run_alongside (alongside_start s.journaled clock' gone ⟨driver, []⟩) before inside
  have hx : Inv s.journaled ⟨driver, []⟩ before x := inv_run s.journaled ⟨driver, []⟩ before
  have hy := inv_run stays ⟨driver, []⟩ (staying gone before)
  refine ⟨?_, hx.stops⟩
  have done : List.Forall₂ (Ticket.Like gone) x.done
      ((Session.start stays ⟨driver, []⟩).run stays (staying gone before)).done :=
    List.rel_map (fun _ _ like => like.ticket) h.served
  exact {
    accepted := h.accepted
    done := map_label_eq done
    dropped := map_label_eq h.dropped
    calls := congrArg (·.calls) h.managed.driver
    state := congrArg (·.state) h.managed.driver
    device := h.managed.device
    counters := h.managed.counters
    records := h.records
    told := h.told hx hy
    leaving := h.phase.leaving_iff
    away := h.phase.gone_iff }

/-- the requester of an enable leaves while the daemon carries it out, that of the shutdown while it is queued -/
theorem departures_unnoticed_shutdown :
    let s : Setup Scripted := ⟨Scripted.driver, .standard, 0, 4, fun _ => .epoch⟩
    let start := Session.start s.journaled ⟨.fresh .silent, []⟩
    let moves : List Move := [.send 0 (.enable ⟨0, none⟩), .send 1 .status, .send 2 .shutdown, .send 3 .status,
      .receive, .leave 0, .leave 2, .carryOut] ++ (List.replicate 2 Session.turn).flatten
    let x := start.run s.journaled moves
    let y := start.run s.journaled (staying [0, 2] moves)
    (∀ n ∈ [0, 2], n ∈ x.accepted.map (·.1)) ∧ x.phase = .gone ∧ x.reply? 2 = none ∧ y.reply? 2 = some (.ok .stopped) ∧
      Unnoticed [0, 2] x y ∧ Stops s.journaled x := by
  intro s start moves x y
  have accepted : ∀ n ∈ [0, 2], n ∈ x.accepted.map (·.1) := by decide
  have unnoticed := departures_unnoticed s s.clock (.fresh .silent) [0, 2] moves accepted moves [] (List.append_nil _).symm
  exact ⟨accepted, by decide +kernel, by decide +kernel, by decide +kernel, unnoticed⟩

end Daemon

end LineTerminal
