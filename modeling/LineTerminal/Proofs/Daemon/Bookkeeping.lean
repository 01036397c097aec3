/-
Where the requests of a session are.

Every request that was sent is in one place: carried out, taken by the daemon, queued, dropped with the queue, waiting for
room, refused, or withdrawn by its requester. `Inv` says so, and what the places have to do with the order of acceptance,
with the phase of the daemon and with the work that was done:
- the places that come after acceptance, read in the order above, are the accepted requests in their order;
- up to its phase, the daemon has met no shutdown, or exactly one, which is the last request it carried out;
- the managed device and the replies are those of the carried-out commands, done one after another (`Session.serial`).

`step_inv`, `run_inv`: every move keeps it, so it holds after any moves (`inv_run`). `run_grows`: what a session has noted
stays noted.
-/
import Mathlib.Data.List.Perm.Basic
import Mathlib.Tactic.Common
import LineTerminal.Daemon.Session

namespace LineTerminal.Daemon

variable {σ : Type}

namespace Session

/-- the request the daemon has taken -/
def hand (x : Session σ) : List Ticket :=
  match x.phase with
  | .busy t => [t]
  | _ => []

/-- the requests carried out so far, oldest first -/
def done (x : Session σ) : List Ticket := x.served.map (·.1)

/-- the places of accepted requests -/
def inside (x : Session σ) : List Ticket := x.done ++ x.hand ++ x.queue ++ x.dropped

/-- the places of requests that were not accepted -/
def outside (x : Session σ) : List Ticket := x.waiting ++ x.refused ++ x.withdrawn

def placed (x : Session σ) : List Ticket := x.inside ++ x.outside

/-- the commands carried out so far, done one after another with no client around -/
def serial {τ : Type} (s : Setup τ) (driver : τ) (x : Session σ) : Work τ (List Reply) :=
  performAll s 1 (x.done.map (·.command)) (.fresh driver s.deviceId)

end Session

/-- requests none of which stops the daemon -/
def Unstopped (ts : List Ticket) : Prop := ∀ t ∈ ts, t.command.stops = false

/-- requests that end with the only one that stops the daemon -/
def Stopped (ts : List Ticket) : Prop := ∃ before t, ts = before ++ [t] ∧ Unstopped before ∧ t.command.stops = true

/-- what the phase of the daemon says about the places -/
inductive Stage (x : Session σ) : Prop where
  /-- it serves -/
  | serving (leaving : x.phase ≠ .leaving) (gone : x.phase ≠ .gone) (unstopped : Unstopped x.done)
    (dropped : x.dropped = []) (refused : x.refused = [])
  /-- it has carried out a shutdown -/
  | stopping (phase : x.phase = .leaving) (stopped : Stopped x.done) (dropped : x.dropped = [])
    (refused : x.refused = [])
  /-- it has found that nobody can send -/
  | deserted (phase : x.phase = .leaving) (unstopped : Unstopped x.done) (queue : x.queue = [])
    (waiting : x.waiting = []) (handles : x.handles = 0) (dropped : x.dropped = []) (refused : x.refused = [])
  /-- it is gone after a shutdown -/
  | stopped (phase : x.phase = .gone) (stopped : Stopped x.done) (queue : x.queue = []) (waiting : x.waiting = [])
  /-- it is gone because nobody could send -/
  | ended (phase : x.phase = .gone) (unstopped : Unstopped x.done) (queue : x.queue = []) (waiting : x.waiting = [])
    (handles : x.handles = 0) (dropped : x.dropped = []) (refused : x.refused = [])

/-- the requests that were sent have the places of `ts`; `moves` are the moves of the whole run -/
structure Located (moves : List Move) (sent : List (Nat × Command)) (ts : List Ticket) : Prop where
  numbers : (sent.map (·.1)).Nodup
  origin : ∀ l ∈ sent, Move.send l.1 l.2 ∈ moves
  /-- none is missing, and none is in two places -/
  places : sent.Perm (ts.map Ticket.label)
  /-- a requester is only missing if it has left -/
  absent : ∀ t ∈ ts, t.present = false → Move.leave t.number ∈ moves

/-- the invariant of a session; `moves` are the moves of the whole run -/
structure Inv (s : Setup σ) (driver : σ) (moves : List Move) (x : Session σ) : Prop where
  /-- the work that was done is the sequential work -/
  managed : x.managed = (x.serial s driver).managed
  replies : x.served.map (·.2) = (x.serial s driver).value
  room : x.queue.length ≤ s.capacity
  /-- the places of accepted requests keep the order of acceptance -/
  order : x.accepted = x.inside.map Ticket.label
  located : Located moves x.sent x.placed
  withdrawn : ∀ t ∈ x.withdrawn, Move.leave t.number ∈ moves
  stage : Stage x

/-! ## The places of requests -/

/-- how often a request is in any place; moves between places are counted with it -/
theorem Session.count_placed (x : Session σ) (t : Ticket) :
    x.placed.count t = x.done.count t + x.hand.count t + x.queue.count t + x.dropped.count t
      + (x.waiting.count t + x.refused.count t + x.withdrawn.count t) := by
  simp only [Session.placed, Session.inside, Session.outside, List.count_append]

section Located

variable {moves : List Move} {sent : List (Nat × Command)} {ts us : List Ticket}

/-- requests change their places, and some of their requesters may have left -/
theorem Located.moved (h : Located moves sent ts) (hp : (us.map Ticket.label).Perm (ts.map Ticket.label))
    (ha : ∀ u ∈ us, u ∈ ts ∨ Move.leave u.number ∈ moves) : Located moves sent us where
  numbers := h.numbers
  origin := h.origin
  places := h.places.trans hp.symm
  absent u hu hu' := by
    rcases ha u hu with hu | hl
    · exact h.absent u hu hu'
    · exact hl

theorem Located.perm (h : Located moves sent ts) (hp : us.Perm ts) : Located moves sent us :=
  h.moved (hp.map _) (fun _ hu => .inl (hp.mem_iff.1 hu))

/-- one more request, under a number that was not used before -/
theorem Located.send (h : Located moves sent ts) {t : Ticket} (fresh : t.number ∉ sent.map (·.1))
    (present : t.present = true) (hm : .send t.number t.command ∈ moves) (hp : us.Perm (t :: ts)) :
    Located moves (sent ++ [t.label]) us where
  numbers := by
    rw [List.map_append, List.nodup_append]
    refine ⟨h.numbers, List.pairwise_singleton .., ?_⟩
    intro a ha b hb hab
    rw [List.map_singleton, List.mem_singleton] at hb
    rw [hab, hb] at ha
    exact fresh ha
  origin l hl := by
    rcases List.mem_append.1 hl with hl | hl
    · exact h.origin l hl
    · rw [List.mem_singleton.1 hl]
      exact hm
  places := by
    calc (sent ++ [t.label]).Perm (t.label :: sent) := List.perm_append_singleton ..
      List.Perm _ ((t :: ts).map Ticket.label) := h.places.cons _
      List.Perm _ (us.map Ticket.label) := (hp.map _).symm
  absent u hu hu' := by
    rcases List.mem_cons.1 (hp.mem_iff.1 hu) with rfl | hu
    · rw [present] at hu'
      cases hu'
    · exact h.absent u hu hu'

end Located

/-! ## What the phase says -/

variable {s : Setup σ} {driver : σ} {moves : List Move} {x : Session σ}

theorem Stage.serving_inv (h : Stage x) (hl : x.phase ≠ .leaving) (hg : x.phase ≠ .gone) :
    Unstopped x.done ∧ x.dropped = [] ∧ x.refused = [] := by
  cases h with
  | serving _ _ hu hd hr => exact ⟨hu, hd, hr⟩
  | stopping leaving => exact absurd leaving hl
  | deserted leaving => exact absurd leaving hl
  | stopped gone => exact absurd gone hg
  | ended gone => exact absurd gone hg

theorem Stage.leaving_inv (h : Stage x) (hl : x.phase = .leaving) :
    x.dropped = [] ∧ x.refused = [] ∧
      (Stopped x.done ∨ Unstopped x.done ∧ x.queue = [] ∧ x.waiting = [] ∧ x.handles = 0) := by
  cases h with
  | serving leaving => exact absurd hl leaving
  | stopping _ hs hd hr => exact ⟨hd, hr, .inl hs⟩
  | deserted _ hu hq hw hh hd hr => exact ⟨hd, hr, .inr ⟨hu, hq, hw, hh⟩⟩
  | stopped gone => rw [hl] at gone; cases gone
  | ended gone => rw [hl] at gone; cases gone

theorem Stage.gone_inv (h : Stage x) (hg : x.phase = .gone) :
    x.queue = [] ∧ x.waiting = [] ∧
      (Stopped x.done ∨ Unstopped x.done ∧ x.handles = 0 ∧ x.dropped = [] ∧ x.refused = []) := by
  cases h with
  | serving _ gone => exact absurd hg gone
  | stopping leaving => rw [hg] at leaving; cases leaving
  | deserted leaving => rw [hg] at leaving; cases leaving
  | stopped _ hs hq hw => exact ⟨hq, hw, .inl hs⟩
  | ended _ hu hq hw hh hd hr => exact ⟨hq, hw, .inr ⟨hu, hh, hd, hr⟩⟩

theorem Stage.unstopped_or_stopped (h : Stage x) : Unstopped x.done ∨ Stopped x.done := by
  cases h with
  | serving _ _ hu => exact .inl hu
  | stopping _ hs => exact .inr hs
  | deserted _ hu => exact .inl hu
  | stopped _ hs => exact .inr hs
  | ended _ hu => exact .inl hu

/-- nothing is dropped or refused before the daemon is gone -/
theorem Stage.nothing_lost (h : Stage x) (hg : x.phase ≠ .gone) : x.dropped = [] ∧ x.refused = [] := by
  by_cases hl : x.phase = .leaving
  · exact ⟨(h.leaving_inv hl).1, (h.leaving_inv hl).2.1⟩
  · exact (h.serving_inv hl hg).2

/-- the queue and the waiting requests may change as long as somebody can still send -/
theorem Stage.of_sender {y : Session σ} (h : Stage x) (hg : x.phase ≠ .gone)
    (sender : x.handles ≠ 0 ∨ x.waiting ≠ []) (phase : y.phase = x.phase) (done : y.done = x.done)
    (dropped : y.dropped = x.dropped) (refused : y.refused = x.refused) : Stage y := by
  rw [← phase] at hg
  cases h with
  | serving hl _ hu hd hr => exact .serving (phase ▸ hl) hg (done ▸ hu) (dropped.trans hd) (refused.trans hr)
  | stopping hl hs hd hr => exact .stopping (phase.trans hl) (done ▸ hs) (dropped.trans hd) (refused.trans hr)
  | deserted _ _ _ hw hh =>
    -- the daemon leaves without a shutdown only when there is no sender
    rcases sender with hs | hs
    · exact absurd hh hs
    · exact absurd hw hs
  | stopped gone => exact absurd (phase.trans gone) hg
  | ended gone => exact absurd (phase.trans gone) hg

/-- once the daemon is gone, requests of whoever can still send are refused -/
theorem Stage.of_gone {y : Session σ} (h : Stage x) (hg : x.phase = .gone) (phase : y.phase = .gone)
    (done : y.done = x.done) (queue : y.queue = x.queue) (waiting : y.waiting = x.waiting)
    (dropped : y.dropped = x.dropped) (nobody : x.handles = 0 → y.handles = 0 ∧ y.refused = x.refused) : Stage y := by
  obtain ⟨hq, hw, hs | ⟨hu, hh, hd, hr⟩⟩ := h.gone_inv hg
  · exact .stopped phase (done ▸ hs) (queue.trans hq) (waiting.trans hw)
  · exact .ended phase (done ▸ hu) (queue.trans hq) (waiting.trans hw) (nobody hh).1 (dropped.trans hd)
      ((nobody hh).2.trans hr)

/-! ## One move -/

theorem inv_start (s : Setup σ) (driver : σ) (moves : List Move) : Inv s driver moves (.start s driver) where
  managed := rfl
  replies := rfl
  room := Nat.zero_le _
  order := rfl
  located := ⟨List.nodup_nil, nofun, .refl _, nofun⟩
  withdrawn := nofun
  stage := .serving nofun nofun nofun rfl rfl

theorem order_accept {y : Session σ} {t : Ticket} (ho : x.accepted = x.inside.map Ticket.label) (hd : x.dropped = [])
    (done : y.done = x.done) (hand : y.hand = x.hand) (queue : y.queue = x.queue ++ [t]) (dropped : y.dropped = x.dropped)
    (accepted : y.accepted = x.accepted ++ [t.label]) : y.accepted = y.inside.map Ticket.label := by
  rw [accepted, ho]
  simp only [Session.inside, done, hand, queue, dropped, hd, List.append_nil, List.map_append, List.map_singleton,
    List.append_assoc]

theorem inv_send {number : Nat} {command : Command} (h : Inv s driver moves x) (handles : x.handles ≠ 0)
    (fresh : number ∉ x.sent.map (·.1)) (hm : .send number command ∈ moves) :
    Inv s driver moves ({ x with sent := x.sent ++ [(number, command)] }.submit s ⟨number, command, true⟩) := by
  have located : ∀ {us : List Ticket}, us.Perm (⟨number, command, true⟩ :: x.placed) →
      Located moves (x.sent ++ [(number, command)]) us := h.located.send fresh rfl hm
  unfold Session.submit
  split
  · rename_i hg
    refine { h with located := located (List.perm_iff_count.2 fun a => ?_), stage := ?_ }
    · rw [List.count_cons, Session.count_placed, Session.count_placed]
      simp only [Session.done, Session.hand, List.count_append, List.count_singleton]
      omega
    · exact h.stage.of_gone hg hg rfl rfl rfl rfl (fun hh => absurd hh handles)
  · rename_i hg
    split
    · rename_i room
      refine { h with room := ?_, order := ?_, located := located (List.perm_iff_count.2 fun a => ?_), stage := ?_ }
      · simp only [Session.accept, List.length_append, List.length_singleton]
        exact room
      · -- a new request stands behind the queue, so nothing may be dropped yet
        exact order_accept (x := x) h.order (h.stage.nothing_lost hg).1 rfl rfl rfl rfl rfl
      · rw [List.count_cons, Session.count_placed, Session.count_placed]
        simp only [Session.accept, Session.done, Session.hand, List.count_append, List.count_singleton]
        omega
      · exact h.stage.of_sender hg (.inl handles) rfl rfl rfl rfl
    · refine { h with located := located (List.perm_iff_count.2 fun a => ?_), stage := ?_ }
      · rw [List.count_cons, Session.count_placed, Session.count_placed]
        simp only [Session.done, Session.hand, List.count_append, List.count_singleton]
        omega
      · exact h.stage.of_sender hg (.inl handles) rfl rfl rfl rfl

theorem inv_enter {t : Ticket} (h : Inv s driver moves x) (ht : t ∈ x.waiting) (room : x.queue.length < s.capacity) :
    Inv s driver moves ({ x with waiting := x.waiting.erase t }.accept t) := by
  have hg : x.phase ≠ .gone := by
    intro hg
    rw [(h.stage.gone_inv hg).2.1] at ht
    cases ht
  refine { h with room := ?_, order := ?_, located := h.located.perm (List.perm_iff_count.2 fun a => ?_), stage := ?_ }
  · simp only [Session.accept, List.length_append, List.length_singleton]
    exact room
  · exact order_accept (x := x) h.order (h.stage.nothing_lost hg).1 rfl rfl rfl rfl rfl
  · have hw := (List.perm_cons_erase ht).count_eq a
    rw [List.count_cons] at hw
    rw [Session.count_placed, Session.count_placed, hw]
    simp only [Session.accept, Session.done, Session.hand, List.count_append, List.count_singleton]
    omega
  · exact h.stage.of_sender hg (.inr (List.ne_nil_of_mem ht)) rfl rfl rfl rfl

/-! ## Leaving -/

theorem Ticket.label_abandon (n : Nat) (t : Ticket) : (t.abandon n).label = t.label := by
  unfold Ticket.abandon
  split <;> rfl

theorem Ticket.abandon_eq_or (n : Nat) (t : Ticket) : t.abandon n = t ∨ (t.abandon n).number = n := by
  unfold Ticket.abandon
  split
  · rename_i hn
    exact .inr hn
  · exact .inl rfl

theorem Phase.abandon_eq_leaving {n : Nat} {p : Phase} : p.abandon n = .leaving ↔ p = .leaving := by
  cases p <;> simp [Phase.abandon]

theorem Phase.abandon_eq_gone {n : Nat} {p : Phase} : p.abandon n = .gone ↔ p = .gone := by
  cases p <;> simp [Phase.abandon]

theorem Session.hand_leave (n : Nat) (x : Session σ) : (x.step s (.leave n)).hand = x.hand.map (·.abandon n) := by
  simp only [Session.step, Session.hand]
  cases x.phase <;> rfl

theorem mem_map_abandon {n : Nat} {ts : List Ticket} {u : Ticket} (hu : u ∈ ts.map (·.abandon n)) :
    u ∈ ts ∨ u.number = n := by
  obtain ⟨t, ht, rfl⟩ := List.mem_map.1 hu
  rcases t.abandon_eq_or n with h | h
  · rw [h]
    exact .inl ht
  · exact .inr h

/-- a requester who leaves moves no accepted request -/
theorem inside_leave (s : Setup σ) (x : Session σ) (n : Nat) :
    (x.step s (.leave n)).inside
      = x.done ++ x.hand.map (·.abandon n) ++ x.queue.map (·.abandon n) ++ x.dropped := by
  rw [Session.inside, Session.hand_leave]
  rfl

/-- a request that waits for room is withdrawn when its requester leaves -/
theorem outside_leave (s : Setup σ) (x : Session σ) (n : Nat) : (x.step s (.leave n)).outside.Perm x.outside := by
  refine List.perm_iff_count.2 fun a => ?_
  have hw := (List.filter_append_perm (·.number == n) x.waiting).count_eq a
  rw [List.count_append] at hw
  simp only [Session.outside, Session.step, List.count_append, ← hw, bne]
  omega

theorem label_comp_abandon (n : Nat) : Ticket.label ∘ (Ticket.abandon n ·) = Ticket.label :=
  funext (Ticket.label_abandon n)

theorem Stage.leave {n : Nat} (h : Stage x) : Stage (x.step s (.leave n)) := by
  cases h with
  | serving hl hg hu hd hr =>
    exact .serving (mt Phase.abandon_eq_leaving.1 hl) (mt Phase.abandon_eq_gone.1 hg) hu hd hr
  | stopping hl hs hd hr => exact .stopping (Phase.abandon_eq_leaving.2 hl) hs hd hr
  | deserted hl hu hq hw hh hd hr =>
    refine .deserted (Phase.abandon_eq_leaving.2 hl) hu ?_ ?_ hh hd hr
    · simp only [Session.step, hq, List.map_nil]
    · simp only [Session.step, hw, List.filter_nil]
  | stopped hg hs hq hw =>
    refine .stopped (Phase.abandon_eq_gone.2 hg) hs ?_ ?_
    · simp only [Session.step, hq, List.map_nil]
    · simp only [Session.step, hw, List.filter_nil]
  | ended hg hu hq hw hh hd hr =>
    refine .ended (Phase.abandon_eq_gone.2 hg) hu ?_ ?_ hh hd hr
    · simp only [Session.step, hq, List.map_nil]
    · simp only [Session.step, hw, List.filter_nil]

theorem inv_leave {n : Nat} (h : Inv s driver moves x) (hm : .leave n ∈ moves) :
    Inv s driver moves (x.step s (.leave n)) := by
  have labels : (x.step s (.leave n)).inside.map Ticket.label = x.inside.map Ticket.label := by
    rw [inside_leave]
    simp only [Session.inside, List.map_append, List.map_map, label_comp_abandon]
  refine { h with room := ?_, order := ?_, located := h.located.moved ?_ ?_, withdrawn := ?_, stage := ?_ }
  · simp only [Session.step, List.length_map]
    exact h.room
  · rw [labels]
    exact h.order
  · simp only [Session.placed, List.map_append, labels]
    exact ((outside_leave s x n).map _).append_left _
  · intro u hu
    rcases List.mem_append.1 hu with hu | hu
    · rw [inside_leave] at hu
      simp only [Session.placed, Session.inside, List.mem_append] at hu ⊢
      rcases hu with ((hu | hu) | hu) | hu
      · exact .inl (by tauto)
      · rcases mem_map_abandon hu with hu | rfl
        · exact .inl (by tauto)
        · exact .inr hm
      · rcases mem_map_abandon hu with hu | rfl
        · exact .inl (by tauto)
        · exact .inr hm
      · exact .inl (by tauto)
    · exact .inl (List.mem_append_right _ ((outside_leave s x n).mem_iff.1 hu))
  · intro u hu
    rcases List.mem_append.1 hu with hu | hu
    · exact h.withdrawn u hu
    · have hn : u.number = n := eq_of_beq (List.mem_filter.1 hu).2
      rw [hn]
      exact hm
  · exact h.stage.leave

/-! ## The daemon -/

theorem inv_receive {t : Ticket} {rest : List Ticket} (h : Inv s driver moves x) (hp : x.phase = .idle)
    (hq : x.queue = t :: rest) : Inv s driver moves { x with queue := rest, phase := .busy t } := by
  have inside : Session.inside { x with queue := rest, phase := .busy t } = x.inside := by
    simp only [Session.inside, Session.done, Session.hand, hp, hq, List.append_assoc, List.nil_append,
      List.cons_append]
  refine { h with room := ?_, order := ?_, located := ?_, stage := ?_ }
  · have room := h.room
    rw [hq, List.length_cons] at room
    exact Nat.le_of_succ_le room
  · rw [inside]
    exact h.order
  · rw [Session.placed, inside]
    exact h.located
  · obtain ⟨hu, hd, hr⟩ := h.stage.serving_inv (by rw [hp]; nofun) (by rw [hp]; nofun)
    exact .serving nofun nofun hu hd hr

theorem inv_desert (h : Inv s driver moves x) (hp : x.phase = .idle) (hq : x.queue = []) (hh : x.handles = 0)
    (hw : x.waiting = []) : Inv s driver moves { x with phase := .leaving } := by
  have inside : Session.inside { x with phase := .leaving } = x.inside := by
    simp only [Session.inside, Session.done, Session.hand, hp]
  refine { h with order := ?_, located := ?_, stage := ?_ }
  · rw [inside]
    exact h.order
  · rw [Session.placed, inside]
    exact h.located
  · obtain ⟨hu, hd, hr⟩ := h.stage.serving_inv (by rw [hp]; nofun) (by rw [hp]; nofun)
    exact .deserted rfl hu hq hw hh hd hr

theorem inside_carryOut (s : Setup σ) {t : Ticket} (hp : x.phase = .busy t) :
    (x.carryOut s t).inside = x.inside := by
  have hand : (x.carryOut s t).hand = [] := by
    simp only [Session.hand, Session.carryOut]
    cases t.command.stops <;> rfl
  simp only [Session.inside, hand]
  simp only [Session.done, Session.hand, hp, Session.carryOut, List.map_append, List.map_singleton, List.append_nil]

/-- one more command after the ones that were carried out before -/
theorem serial_carryOut (t : Ticket) (hm : x.managed = (x.serial s driver).managed) :
    ((x.carryOut s t).serial s driver).managed = (perform s (x.now s) t.command x.managed).managed ∧
      ((x.carryOut s t).serial s driver).value
        = (x.serial s driver).value ++ [(perform s (x.now s) t.command x.managed).value] := by
  have now : s.clock (1 + (x.done.map (·.command)).length) = x.now s := by
    simp only [Session.now, Session.done, List.length_map, Nat.add_comm]
  have done : (x.carryOut s t).done = x.done ++ [t] := List.map_append
  rw [hm, Session.serial, done, List.map_append, List.map_singleton, performAll_append]
  simp only [performAll, now]
  exact ⟨rfl, rfl⟩

theorem inv_carryOut {t : Ticket} (h : Inv s driver moves x) (hp : x.phase = .busy t) :
    Inv s driver moves (x.carryOut s t) := by
  refine { h with managed := ?_, replies := ?_, order := ?_, located := ?_, stage := ?_ }
  · exact (serial_carryOut t h.managed).1.symm
  · rw [(serial_carryOut t h.managed).2, ← h.replies]
    exact List.map_append
  · rw [inside_carryOut s hp]
    exact h.order
  · rw [Session.placed, inside_carryOut s hp]
    exact h.located
  · have done : (x.carryOut s t).done = x.done ++ [t] := List.map_append
    obtain ⟨hu, hd, hr⟩ := h.stage.serving_inv (by rw [hp]; nofun) (by rw [hp]; nofun)
    cases hs : t.command.stops with
    | true =>
      refine .stopping ?_ ⟨x.done, t, done, hu, hs⟩ hd hr
      simp only [Session.carryOut, hs, ↓reduceIte]
    | false =>
      have phase : (x.carryOut s t).phase = .idle := by
        simp only [Session.carryOut, hs, Bool.false_eq_true, ↓reduceIte]
      refine .serving (phase ▸ nofun) (phase ▸ nofun) ?_ hd hr
      rw [done]
      intro u hu'
      rcases List.mem_append.1 hu' with hu' | hu'
      · exact hu u hu'
      · rw [List.mem_singleton.1 hu']
        exact hs

theorem inv_close (h : Inv s driver moves x) (hp : x.phase = .leaving) : Inv s driver moves (x.close s) := by
  obtain ⟨hd, hr, hs⟩ := h.stage.leaving_inv hp
  have inside : (x.close s).inside = x.inside := by
    simp only [Session.inside, Session.done, Session.hand, Session.close, hp, hd, List.nil_append, List.append_nil]
  have outside : (x.close s).outside = x.outside := by
    simp only [Session.outside, Session.close, hr, List.nil_append, List.append_nil]
  refine { h with room := Nat.zero_le _, order := ?_, located := ?_, stage := ?_ }
  · rw [inside]
    exact h.order
  · rw [Session.placed, inside, outside]
    exact h.located
  · rcases hs with hs | ⟨hu, hq, hw, hh⟩
    · exact .stopped rfl hs rfl rfl
    · refine .ended rfl hu rfl rfl hh ?_ ?_
      · simp only [Session.close, hd, hq, List.append_nil]
      · simp only [Session.close, hr, hw, List.append_nil]

/-! ## Any moves -/

/-- a handle more or less is no matter, once there is none there will be none -/
theorem inv_handles (h : Inv s driver moves x) (n : Nat) (hn : x.handles = 0 → n = 0) :
    Inv s driver moves { x with handles := n } := by
  refine { h with stage := ?_ }
  cases h.stage with
  | serving hl hg hu hd hr => exact .serving hl hg hu hd hr
  | stopping hl hs hd hr => exact .stopping hl hs hd hr
  | deserted hl hu hq hw hh hd hr => exact .deserted hl hu hq hw (hn hh) hd hr
  | stopped hg hs hq hw => exact .stopped hg hs hq hw
  | ended hg hu hq hw hh hd hr => exact .ended hg hu hq hw (hn hh) hd hr

/-- **One move.** -/
theorem step_inv (h : Inv s driver moves x) (m : Move) (hm : m ∈ moves) : Inv s driver moves (x.step s m) := by
  cases m with
  | send number command =>
    simp only [Session.step]
    split_ifs with hs
    · exact h
    · rw [not_or] at hs
      exact inv_send h hs.1 hs.2 hm
  | enter number =>
    simp only [Session.step]
    split_ifs with room
    · split
      · exact h
      · rename_i t ht
        exact inv_enter h (List.mem_of_find?_eq_some ht) room
    · exact h
  | leave number => exact inv_leave h hm
  | clone =>
    simp only [Session.step]
    split_ifs with hh
    · exact h
    · exact inv_handles h _ (fun h0 => absurd h0 hh)
  | drop => exact inv_handles h _ (fun h0 => by rw [h0])
  | receive =>
    simp only [Session.step]
    split
    · rename_i hp hq
      exact inv_receive h hp hq
    · rename_i hp hq
      split_ifs with hd
      · exact inv_desert h hp hq hd.1 hd.2
      · exact h
    · exact h
  | carryOut =>
    simp only [Session.step]
    split
    · rename_i hp
      exact inv_carryOut h hp
    · exact h
  | close =>
    simp only [Session.step]
    split_ifs with hp
    · exact inv_close h hp
    · exact h

/-- **Any moves.** -/
theorem run_inv (h : Inv s driver moves x) (part : List Move) (hp : ∀ m ∈ part, m ∈ moves) :
    Inv s driver moves (x.run s part) := by
  induction part generalizing x with
  | nil => exact h
  | cons m part ih =>
    exact ih (step_inv h m (hp m (List.mem_cons_self ..))) (fun m' hm' => hp m' (List.mem_cons_of_mem _ hm'))

/-- the invariant of every run of a daemon that has just started -/
theorem inv_run (s : Setup σ) (driver : σ) (moves : List Move) :
    Inv s driver moves ((Session.start s driver).run s moves) :=
  run_inv (inv_start s driver moves) moves (fun _ hm => hm)

/-! ## What stays noted -/

/-- what a session has noted so far stays noted -/
structure Session.Grows (x y : Session σ) : Prop where
  sent : x.sent <+: y.sent
  withdrawn : x.withdrawn <+: y.withdrawn
  log : x.log <+: y.log

theorem Session.Grows.refl (x : Session σ) : x.Grows x :=
  ⟨List.prefix_refl _, List.prefix_refl _, List.prefix_refl _⟩

theorem Session.Grows.trans {x y z : Session σ} (h : x.Grows y) (g : y.Grows z) : x.Grows z :=
  ⟨h.sent.trans g.sent, h.withdrawn.trans g.withdrawn, h.log.trans g.log⟩

theorem submit_grows (s : Setup σ) (x : Session σ) (t : Ticket) : x.Grows (x.submit s t) := by
  unfold Session.submit
  split_ifs
  · exact ⟨List.prefix_refl _, List.prefix_refl _, List.prefix_refl _⟩
  · exact ⟨List.prefix_refl _, List.prefix_refl _, List.prefix_refl _⟩
  · exact ⟨List.prefix_refl _, List.prefix_refl _, List.prefix_refl _⟩

theorem step_grows (s : Setup σ) (x : Session σ) (m : Move) : x.Grows (x.step s m) := by
  cases m with
  | send number command =>
    simp only [Session.step]
    split_ifs
    · exact .refl x
    · obtain ⟨sent, withdrawn, log⟩ :=
        submit_grows s { x with sent := x.sent ++ [(number, command)] } ⟨number, command, true⟩
      exact ⟨(List.prefix_append ..).trans sent, withdrawn, log⟩
  | enter number =>
    simp only [Session.step]
    split_ifs
    · split
      · exact .refl x
      · exact ⟨List.prefix_refl _, List.prefix_refl _, List.prefix_refl _⟩
    · exact .refl x
  | leave number => exact ⟨List.prefix_refl _, List.prefix_append .., List.prefix_refl _⟩
  | clone =>
    simp only [Session.step]
    split_ifs
    · exact .refl x
    · exact ⟨List.prefix_refl _, List.prefix_refl _, List.prefix_refl _⟩
  | drop => exact ⟨List.prefix_refl _, List.prefix_refl _, List.prefix_refl _⟩
  | receive =>
    simp only [Session.step]
    split
    · exact ⟨List.prefix_refl _, List.prefix_refl _, List.prefix_refl _⟩
    · split_ifs
      · exact ⟨List.prefix_refl _, List.prefix_refl _, List.prefix_refl _⟩
      · exact .refl x
    · exact .refl x
  | carryOut =>
    simp only [Session.step]
    split
    · exact ⟨List.prefix_refl _, List.prefix_refl _, List.prefix_append ..⟩
    · exact .refl x
  | close =>
    simp only [Session.step]
    split_ifs
    · exact ⟨List.prefix_refl _, List.prefix_refl _, List.prefix_append ..⟩
    · exact .refl x

/-- **Nothing noted is ever taken back.** -/
theorem run_grows (s : Setup σ) (x : Session σ) (part : List Move) : x.Grows (x.run s part) := by
  induction part generalizing x with
  | nil => exact .refl x
  | cons m part ih => exact (step_grows s x m).trans (ih _)

end LineTerminal.Daemon
