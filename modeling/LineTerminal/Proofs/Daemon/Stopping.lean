/-
Where a session stops.

`throughShutdown` cuts the accepted requests behind the first shutdown. `Boundary` is what the cut decides:
- only requests before it are carried out, and all of them are by the time the daemon is gone;
- a request accepted behind it, another shutdown included, gets no reply, and a request that was not accepted finds the
  queue closed; neither leaves a trace in the driver, the device or the counters;
- without a shutdown there is no cut: the daemon goes when no handle is left, and then everything accepted has been
  carried out;
- a daemon that is gone stays as it is, and it does go once a shutdown was accepted or nobody can send (`turns_gone`).

`stop_boundary`: every run keeps to it.
-/
import LineTerminal.Driver
import LineTerminal.Proofs.Daemon.Replies

namespace LineTerminal.Daemon

variable {σ : Type} {s : Setup σ} {driver : σ} {moves : List Move} {x : Session σ}

/-! ## The cut -/

/-- requests up to the first shutdown, that one included -/
def throughShutdown : List (Nat × Command) → List (Nat × Command)
  | [] => []
  | l :: rest => if l.2.stops then [l] else l :: throughShutdown rest

theorem throughShutdown_append {before : List (Nat × Command)} (h : ∀ l ∈ before, l.2.stops = false)
    (after : List (Nat × Command)) : throughShutdown (before ++ after) = before ++ throughShutdown after := by
  induction before with
  | nil => rfl
  | cons l before ih =>
    have hl := h l (List.mem_cons_self ..)
    rw [List.cons_append, throughShutdown, hl, ih (fun k hk => h k (List.mem_cons_of_mem _ hk))]
    rfl

theorem throughShutdown_eq_self {ls : List (Nat × Command)} (h : ∀ l ∈ ls, l.2.stops = false) :
    throughShutdown ls = ls := by
  have hs := throughShutdown_append h []
  rwa [List.append_nil, throughShutdown, List.append_nil] at hs

theorem Unstopped.labels {ts : List Ticket} (h : Unstopped ts) : ∀ l ∈ ts.map Ticket.label, l.2.stops = false := by
  intro l hl
  obtain ⟨t, ht, rfl⟩ := List.mem_map.1 hl
  exact h t ht

theorem Stopped.throughShutdown {ts : List Ticket} (h : Stopped ts) (after : List (Nat × Command)) :
    Daemon.throughShutdown (ts.map Ticket.label ++ after) = ts.map Ticket.label := by
  obtain ⟨before, t, rfl, hu, ht⟩ := h
  have hl : t.label.2.stops = true := ht
  rw [List.map_append, List.append_assoc, throughShutdown_append hu.labels]
  simp only [List.map_singleton, List.singleton_append, Daemon.throughShutdown, hl, ↓reduceIte]

/-- **Only requests before the cut are carried out.** -/
theorem Inv.done_prefix_throughShutdown (h : Inv s driver moves x) :
    x.done.map Ticket.label <+: throughShutdown x.accepted := by
  rw [h.accepted_eq]
  rcases h.stage.unstopped_or_stopped with hu | hs
  · rw [throughShutdown_append hu.labels]
    exact List.prefix_append ..
  · exact (hs.throughShutdown _).symm ▸ List.prefix_refl _

/-- **All of them are, by the time the daemon is gone.** -/
theorem Inv.done_eq_throughShutdown (h : Inv s driver moves x) (gone : x.phase = .gone) :
    x.done.map Ticket.label = throughShutdown x.accepted := by
  have hand : x.hand = [] := by
    rw [Session.hand, gone]
  obtain ⟨hq, -, hs | ⟨hu, -, hd, -⟩⟩ := h.stage.gone_inv gone
  · rw [h.accepted_eq, hs.throughShutdown]
  · rw [h.accepted_eq, hand, hq, hd, List.append_nil, List.append_nil, List.map_nil, List.append_nil,
      throughShutdown_eq_self hu.labels]

/-! ## A daemon that is gone -/

/-- `y` is `x` after the daemon has gone, as far as the daemon is concerned -/
structure Session.Over (x y : Session σ) : Prop where
  phase : y.phase = .gone
  waiting : y.waiting = []
  managed : y.managed = x.managed
  accepted : y.accepted = x.accepted
  served : y.served = x.served
  dropped : y.dropped = x.dropped

theorem step_over (s : Setup σ) {y : Session σ} (h : x.Over y) (m : Move) : x.Over (y.step s m) := by
  obtain ⟨hp, hw, hm, ha, hs, hd⟩ := h
  cases m with
  | send number command =>
    simp only [Session.step, Session.submit, hp, ↓reduceIte]
    split_ifs
    · exact ⟨hp, hw, hm, ha, hs, hd⟩
    · exact ⟨rfl, hw, hm, ha, hs, hd⟩
  | enter number =>
    simp only [Session.step, hw, List.find?_nil]
    split_ifs
    · exact ⟨hp, hw, hm, ha, hs, hd⟩
    · exact ⟨hp, hw, hm, ha, hs, hd⟩
  | leave number =>
    refine ⟨Phase.abandon_eq_gone.2 hp, ?_, hm, ha, hs, hd⟩
    simp only [Session.step, hw, List.filter_nil]
  | clone =>
    simp only [Session.step]
    split_ifs
    · exact ⟨hp, hw, hm, ha, hs, hd⟩
    · exact ⟨hp, hw, hm, ha, hs, hd⟩
  | drop => exact ⟨hp, hw, hm, ha, hs, hd⟩
  | receive =>
    simp only [Session.step, hp]
    exact ⟨hp, hw, hm, ha, hs, hd⟩
  | carryOut =>
    simp only [Session.step, hp]
    exact ⟨hp, hw, hm, ha, hs, hd⟩
  | close =>
    simp only [Session.step, hp, reduceCtorEq, ↓reduceIte]
    exact ⟨hp, hw, hm, ha, hs, hd⟩

/-- **A daemon that is gone does nothing more.** -/
theorem run_over (s : Setup σ) {y : Session σ} (h : x.Over y) (more : List Move) : x.Over (y.run s more) := by
  induction more generalizing y with
  | nil => exact h
  | cons m more ih => exact ih (step_over s h m)

/-! ## The daemon does go -/

/-- the requests that are accepted and not carried out yet -/
def Session.ahead (x : Session σ) : List Ticket := x.hand ++ x.queue

/-- a shutdown is ahead of the daemon, or nobody can send any more -/
def Session.Due (x : Session σ) : Prop :=
  (∃ t ∈ x.ahead, t.command.stops = true) ∨ x.handles = 0 ∧ x.waiting = []

/-- what a turn makes of a daemon that is due: it is gone, or fewer requests are ahead of it -/
def Session.Nearer (x y : Session σ) : Prop :=
  y.phase = .gone ∨ y.phase = .idle ∧ y.Due ∧ y.ahead.length < x.ahead.length

theorem run_turn (s : Setup σ) (x : Session σ) :
    x.run s Session.turn = ((x.step s .receive).step s .carryOut).step s .close := by
  simp only [Session.run, Session.turn, List.foldl_cons, List.foldl_nil]

/-- a turn carries out the request that the daemon has taken -/
theorem nearer_busy (s : Setup σ) {t : Ticket} (due : x.Due) (hp : x.phase = .busy t) :
    x.Nearer ((x.step s .carryOut).step s .close) := by
  have carried : x.step s .carryOut = x.carryOut s t := by
    simp only [Session.step, hp]
  rw [carried]
  cases hs : t.command.stops with
  | true =>
    have leaving : (x.carryOut s t).phase = .leaving := by
      simp only [Session.carryOut, hs, ↓reduceIte]
    left
    simp only [Session.step, leaving, ↓reduceIte, Session.close]
  | false =>
    have idle : (x.carryOut s t).phase = .idle := by
      simp only [Session.carryOut, hs, Bool.false_eq_true, ↓reduceIte]
    have stays : (x.carryOut s t).step s .close = x.carryOut s t := by
      simp only [Session.step, idle, reduceCtorEq, ↓reduceIte]
    have ahead : (x.carryOut s t).ahead = x.queue := by
      simp only [Session.ahead, Session.hand, idle, List.nil_append]
      rfl
    have before : x.ahead = t :: x.queue := by
      simp only [Session.ahead, Session.hand, hp, List.singleton_append]
    right
    rw [stays]
    refine ⟨idle, ?_, ?_⟩
    · rcases due with ⟨u, hu, hus⟩ | nobody
      · rw [before] at hu
        rcases List.mem_cons.1 hu with rfl | hu
        · rw [hs] at hus
          cases hus
        · exact .inl ⟨u, ahead ▸ hu, hus⟩
      · exact .inr nobody
    · rw [ahead, before]
      exact Nat.lt_succ_self _

theorem gone_turn (s : Setup σ) (gone : x.phase = .gone) : (x.run s Session.turn).phase = .gone := by
  simp only [run_turn, Session.step, gone, reduceCtorEq, ↓reduceIte]

theorem nearer_turn (s : Setup σ) (due : x.phase = .gone ∨ x.phase = .leaving ∨ x.Due) :
    x.Nearer (x.run s Session.turn) := by
  cases hp : x.phase with
  | gone => exact .inl (gone_turn s hp)
  | leaving =>
    left
    simp only [run_turn, Session.step, hp, ↓reduceIte, Session.close]
  | busy t =>
    rw [run_turn]
    have received : x.step s .receive = x := by
      simp only [Session.step, hp]
    rw [received]
    refine nearer_busy s ?_ hp
    simpa only [hp, reduceCtorEq, false_or] using due
  | idle =>
    rw [run_turn]
    have due : x.Due := by simpa only [hp, reduceCtorEq, false_or] using due
    cases hq : x.queue with
    | nil =>
      have nobody : x.handles = 0 ∧ x.waiting = [] := by
        simpa only [Session.Due, Session.ahead, Session.hand, hp, hq, List.append_nil, List.not_mem_nil, false_and,
          exists_false, false_or] using due
      left
      simp only [Session.step, hp, hq, nobody, and_self, ↓reduceIte, Session.close]
    | cons t rest =>
      have received : x.step s .receive = { x with queue := rest, phase := .busy t } := by
        simp only [Session.step, hp, hq]
      have ahead : Session.ahead { x with queue := rest, phase := .busy t } = x.ahead := by
        simp only [Session.ahead, Session.hand, hp, hq, List.nil_append, List.singleton_append]
      have due' : Session.Due { x with queue := rest, phase := .busy t } := by
        unfold Session.Due
        rw [ahead]
        exact due
      have nearer := nearer_busy s due' rfl
      unfold Session.Nearer at nearer ⊢
      rw [ahead, ← received] at nearer
      exact nearer

theorem gone_turns (s : Setup σ) (gone : x.phase = .gone) (n : Nat) :
    (x.run s (List.replicate n Session.turn).flatten).phase = .gone := by
  induction n generalizing x with
  | zero => exact gone
  | succ n ih =>
    rw [List.replicate_succ, List.flatten_cons, Session.run, List.foldl_append]
    exact ih (gone_turn s gone)

/-- **A daemon that is due goes.** -/
theorem turns_gone (s : Setup σ) (due : x.phase = .gone ∨ x.phase = .leaving ∨ x.Due) (n : Nat)
    (h : x.ahead.length < n) : (x.run s (List.replicate n Session.turn).flatten).phase = .gone := by
  induction n generalizing x with
  | zero => exact absurd h (Nat.not_lt_zero _)
  | succ n ih =>
    rw [List.replicate_succ, List.flatten_cons, Session.run, List.foldl_append]
    rcases nearer_turn s due with gone | ⟨-, due', fewer⟩
    · exact gone_turns s gone n
    · exact ih (.inr (.inr due')) (Nat.lt_of_lt_of_le fewer (Nat.le_of_lt_succ h))

/-- a shutdown that was accepted is ahead of the daemon as long as it serves -/
theorem Inv.due (h : Inv s driver moves x)
    (last : (∃ l ∈ x.accepted, l.2.stops = true) ∨ x.handles = 0 ∧ x.waiting = []) :
    x.phase = .gone ∨ x.phase = .leaving ∨ x.Due := by
  cases h.stage with
  | serving _ _ hu hd =>
    refine .inr (.inr (last.imp_left ?_))
    rintro ⟨l, hl, hs⟩
    rw [h.accepted_eq, hd, List.append_nil] at hl
    rcases List.mem_append.1 hl with hl | hl
    · rw [hu.labels l hl] at hs
      cases hs
    · obtain ⟨t, ht, rfl⟩ := List.mem_map.1 hl
      exact ⟨t, ht, hs⟩
  | stopping hl => exact .inr (.inl hl)
  | deserted hl => exact .inr (.inl hl)
  | stopped hg => exact .inl hg
  | ended hg => exact .inl hg

theorem length_ahead_le (x : Session σ) : x.ahead.length ≤ x.queue.length + 1 := by
  simp only [Session.ahead, Session.hand, List.length_append]
  split
  · exact Nat.le_of_eq (Nat.add_comm ..)
  · rw [List.length_nil, Nat.zero_add]
    exact Nat.le_succ _

/-! ## The places of requests in the end -/

theorem Inv.accepted_gone (h : Inv s driver moves x) (gone : x.phase = .gone) :
    x.accepted = throughShutdown x.accepted ++ x.dropped.map Ticket.label := by
  have hand : x.hand = [] := by
    rw [Session.hand, gone]
  rw [← h.done_eq_throughShutdown gone]
  conv_lhs => rw [h.accepted_eq, hand, (h.stage.gone_inv gone).1]
  rfl

theorem Inv.places_gone (h : Inv s driver moves x) (gone : x.phase = .gone) :
    x.sent.Perm (throughShutdown x.accepted ++ (x.dropped ++ x.refused ++ x.withdrawn).map Ticket.label) := by
  have placed : x.placed.map Ticket.label = x.accepted ++ (x.refused ++ x.withdrawn).map Ticket.label := by
    rw [Session.placed, Session.outside, (h.stage.gone_inv gone).2.1, List.map_append, ← h.order]
    rfl
  have places := h.located.places
  rw [placed, h.accepted_gone gone] at places
  rw [List.append_assoc x.dropped, List.map_append, ← List.append_assoc]
  exact places

/-- a request that was not accepted was refused, unless its requester took it back -/
theorem Inv.mem_refused (h : Inv s driver moves x) (gone : x.phase = .gone) {l : Nat × Command} (hl : l ∈ x.sent)
    (outside : l ∉ x.accepted) (stays : Move.leave l.1 ∉ moves) : ∃ t ∈ x.refused, t.label = l := by
  have places := (h.places_gone gone).mem_iff.1 hl
  rw [List.append_assoc x.dropped, List.map_append, ← List.append_assoc, ← h.accepted_gone gone] at places
  rcases List.mem_append.1 places with hl | hl
  · exact absurd hl outside
  · obtain ⟨t, ht, rfl⟩ := List.mem_map.1 hl
    rcases List.mem_append.1 ht with ht | ht
    · exact ⟨t, ht, rfl⟩
    · exact absurd (h.withdrawn t ht) stays

/-! ## Main result -/

/-- where a session stops; `moves` are the moves of the whole run -/
structure Boundary (s : Setup σ) (driver : σ) (moves : List Move) (x : Session (Journaled σ)) : Prop where
  /-- the requests are those of the clients, and the queue accepts each of them at most once -/
  heard : Heard s.journaled ⟨driver, []⟩ moves x
  /-- requests up to the first shutdown are carried out, in the order of acceptance -/
  order : x.done.map Ticket.label <+: throughShutdown x.accepted
  /-- all of them by the time the daemon is gone -/
  cut : x.phase = .gone → x.done.map Ticket.label = throughShutdown x.accepted
  /-- the queue took the others that it had accepted with it -/
  accepted : x.phase = .gone → x.accepted = throughShutdown x.accepted ++ x.dropped.map Ticket.label
  /-- each request is then in one class: carried out, dropped, refused, or taken back before it was accepted -/
  classes : x.phase = .gone →
    x.sent.Perm (throughShutdown x.accepted ++ (x.dropped ++ x.refused ++ x.withdrawn).map Ticket.label)
  withdrawn : ∀ t ∈ x.withdrawn, Move.leave t.number ∈ moves
  /-- up to the cut, who stays gets the reply to the own request -/
  answered : x.phase = .gone → ∀ (i number : Nat) (command : Command),
    (throughShutdown x.accepted)[i]? = some (number, command) → Move.leave number ∉ moves →
    ∃ r, (x.serial s driver).value[i]? = some r ∧ x.reply? number = some (.ok r)
  /-- behind it, nobody gets a reply -/
  behind : x.phase = .gone → ∀ l ∈ x.accepted, l ∉ throughShutdown x.accepted → Move.leave l.1 ∉ moves →
    x.reply? l.1 = some (.error .noReply)
  /-- who was not accepted finds the queue closed -/
  refused : x.phase = .gone → ∀ l ∈ x.sent, l ∉ x.accepted → Move.leave l.1 ∉ moves →
    x.reply? l.1 = some (.error .queueClosed)
  /-- only what was carried out has left a trace in the driver, its calls, the device and the counters -/
  managed : x.managed = (performAll s.journaled 1 (x.done.map (·.command)) (.fresh ⟨driver, []⟩ s.deviceId)).managed
  /-- in the end, that is what stands before the cut -/
  final : x.phase = .gone → x.managed
    = (performAll s.journaled 1 ((throughShutdown x.accepted).map (·.2)) (.fresh ⟨driver, []⟩ s.deviceId)).managed
  /-- whatever clients do afterwards, it stays so -/
  lasting : x.phase = .gone → ∀ more, x.Over (x.run s.journaled more)
  /-- without a shutdown the daemon goes when there is no handle, and it has carried out all that was accepted -/
  unstopped : x.phase = .gone → (∀ l ∈ x.accepted, l.2.stops = false) →
    x.handles = 0 ∧ x.done.map Ticket.label = x.accepted ∧ x.dropped = [] ∧ x.refused = []
  /-- after a shutdown, or when nobody can send any more, the daemon does go -/
  goes : (∃ l ∈ x.accepted, l.2.stops = true) ∨ x.handles = 0 ∧ x.waiting = [] →
    (x.run s.journaled (List.replicate (x.queue.length + 2) Session.turn).flatten).phase = .gone

/-- **The stop boundary.** For every driver, every setup, and every order of the moves of any number of clients and of the
daemon, with any number of shutdowns among the requests. -/
theorem stop_boundary (s : Setup σ) (driver : σ) (moves : List Move) :
    Boundary s driver moves ((Session.start s.journaled ⟨driver, []⟩).run s.journaled moves) := by
  have heard := heard_run s.journaled ⟨driver, []⟩ moves
  have h := inv_run s.journaled ⟨driver, []⟩ moves
  generalize (Session.start s.journaled ⟨driver, []⟩).run s.journaled moves = x at h heard ⊢
  have cut := h.done_eq_throughShutdown
  refine {
    heard := heard
    order := h.done_prefix_throughShutdown
    cut := cut
    accepted := h.accepted_gone
    classes := h.places_gone
    withdrawn := h.withdrawn
    answered := ?_
    behind := ?_
    refused := ?_
    managed := h.managed
    final := ?_
    lasting := ?_
    unstopped := ?_
    goes := ?_ }
  · intro gone i number command hi stays
    rw [← cut gone] at hi
    obtain ⟨hlt, -⟩ := List.getElem?_eq_some_iff.1 hi
    obtain ⟨later, hlater⟩ := h.done_prefix
    have ha : x.accepted[i]? = some (number, command) := by
      rw [← hlater, List.getElem?_append_left hlt, hi]
    rw [List.length_map, Session.done, List.length_map] at hlt
    rw [← (serial_alike s driver x).value]
    exact h.delivered ha hlt stays
  · intro gone l hl behind stays
    rw [h.accepted_gone gone] at hl
    rcases List.mem_append.1 hl with hl | hl
    · exact absurd hl behind
    · obtain ⟨t, ht, rfl⟩ := List.mem_map.1 hl
      exact h.reply_dropped ht stays
  · intro gone l hl outside stays
    obtain ⟨t, ht, rfl⟩ := h.mem_refused gone hl outside stays
    exact h.reply_refused ht stays
  · intro gone
    rw [← cut gone, List.map_map]
    exact h.managed
  · intro gone more
    exact run_over s.journaled ⟨gone, (h.stage.gone_inv gone).2.1, rfl, rfl, rfl, rfl⟩ more
  · intro gone unstopped
    have done : x.done.map Ticket.label = x.accepted := (cut gone).trans (throughShutdown_eq_self unstopped)
    obtain ⟨-, -, hs | ⟨-, hh, hd, hr⟩⟩ := h.stage.gone_inv gone
    · exact absurd hs (h.not_stopped unstopped)
    · exact ⟨hh, done, hd, hr⟩
  · intro last
    exact turns_gone s.journaled (h.due last) _ (Nat.lt_succ_of_le (length_ahead_le x))

end LineTerminal.Daemon
