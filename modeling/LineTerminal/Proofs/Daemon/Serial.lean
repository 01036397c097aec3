/-
A session does what its commands do one after another.

Whatever the moves of the clients and the daemon and however they are mixed, the order in which the queue accepts the
requests decides everything. `Serial` spells it out:
- the requests carried out are the first ones accepted, in that order, each once;
- the replies, the device, the counters and the state of the driver are those of doing the same commands one after another
  (`Session.serial`), and every requester gets the reply to its own request;
- the driver calls are one block for each enable, in the same order (`blocks`), so no two enables are ever mixed.

`session_serial`: every run of a daemon is serial. What carries it is the invariant of `Bookkeeping`, which compares the
session with the sequential work after every move.
-/
import LineTerminal.Proofs.Daemon.Replies

namespace LineTerminal.Daemon

variable {σ : Type}

/-! ## The calls of sequential work -/

def Command.request? : Command → Option Enable.Request
  | .enable request => some request
  | _ => none

/-- the enables among commands that are done one after another, each with the driver calls it makes -/
def blocks (s : Setup σ) : Nat → List Command → Managed σ → List (Enable.Request × List Call)
  | _, [], _ => []
  | n, command :: rest, m =>
    let later := blocks s (n + 1) rest (perform s (s.clock n) command m).managed
    match command.request? with
    | some request =>
      (request, (enable s.driver.journaled s.settings (s.clock n) request m.journaled).managed.driver.calls) :: later
    | none => later

/-- there is one block for each enable -/
theorem blocks_requests (s : Setup σ) (n : Nat) (commands : List Command) (m : Managed σ) :
    (blocks s n commands m).map (·.1) = commands.filterMap Command.request? := by
  induction commands generalizing n m with
  | nil => rfl
  | cons command commands ih =>
    simp only [blocks]
    cases h : command.request? with
    | none => rw [List.filterMap_cons_none h, ih]
    | some request => rw [List.filterMap_cons_some h, List.map_cons, ih]

/-- **The calls are the blocks.** -/
theorem performAll_calls (s : Setup σ) (n : Nat) (commands : List Command) (j : Managed (Journaled σ)) (m : Managed σ)
    (h : j.Alike Journaled.Of m) :
    (performAll s.journaled n commands j).managed.driver.calls
      = j.driver.calls ++ ((blocks s n commands m).map (·.2)).flatten := by
  induction commands generalizing n j m with
  | nil => exact (List.append_nil _).symm
  | cons command commands ih =>
    have hw := perform_alike (s := s.journaled) (journaled_alike s.driver) (s.clock n) command h
    have first := perform_calls s (s.clock n) command j m h
    calc (performAll s.journaled (n + 1) commands (perform s.journaled (s.clock n) command j).managed).managed.driver.calls
      _ = (perform s.journaled (s.clock n) command j).managed.driver.calls
            ++ ((blocks s (n + 1) commands (perform s (s.clock n) command m).managed).map (·.2)).flatten :=
          ih (n + 1) _ _ hw.managed
      _ = j.driver.calls ++ ((blocks s n (command :: commands) m).map (·.2)).flatten := by
          rw [first, List.append_assoc]
          cases command <;> rfl

/-! ## The session -/

/-- what a session has done, compared with doing its commands one after another; `moves` are the moves of the whole run -/
structure Serial (s : Setup σ) (driver : σ) (moves : List Move) (x : Session (Journaled σ)) : Prop where
  /-- the requests are those of the clients, and the queue accepts each of them at most once -/
  heard : Heard s.journaled ⟨driver, []⟩ moves x
  /-- the queue never holds more than it may -/
  room : x.queue.length ≤ max s.depth.toNat 1
  /-- requests are carried out in the order of acceptance, each at most once -/
  order : x.done.map Ticket.label <+: x.accepted
  /-- with an empty queue, and no shutdown, all accepted requests have been carried out -/
  complete : (∀ l ∈ x.accepted, l.2.stops = false) → x.queue = [] → x.hand = [] →
    x.done.map Ticket.label = x.accepted
  /-- if nothing waits for room either, so have all requests that were not taken back -/
  everything : (∀ l ∈ x.accepted, l.2.stops = false) → x.queue = [] → x.hand = [] → x.waiting = [] →
    ∀ l ∈ x.sent, Move.leave l.1 ∉ moves → l ∈ x.done.map Ticket.label
  /-- the replies are those of the sequential work -/
  replies : x.served.map (·.2) = (x.serial s driver).value
  /-- who stays gets the reply to the own request -/
  delivered : ∀ (i number : Nat) (command : Command), x.accepted[i]? = some (number, command) → i < x.served.length →
    Move.leave number ∉ moves → ∃ r, (x.serial s driver).value[i]? = some r ∧ x.reply? number = some (.ok r)
  /-- and nobody gets any other reply -/
  own : ∀ number r, x.reply? number = some (.ok r) →
    ∃ (i : Nat) (command : Command), x.accepted[i]? = some (number, command) ∧ (x.serial s driver).value[i]? = some r
  /-- driver, device and counters are as the sequential work leaves them -/
  state : x.managed.driver.state = (x.serial s driver).managed.driver
  device : x.managed.device = (x.serial s driver).managed.device
  counters : x.managed.counters = (x.serial s driver).managed.counters
  /-- so are the driver calls: one block for each enable -/
  calls : x.managed.driver.calls = (x.serial s.journaled ⟨driver, []⟩).managed.driver.calls
  requests : (blocks s 1 (x.done.map (·.command)) (.fresh driver s.deviceId)).map (·.1)
    = x.done.filterMap (·.command.request?)
  contiguous : x.managed.driver.calls
    = ((blocks s 1 (x.done.map (·.command)) (.fresh driver s.deviceId)).map (·.2)).flatten

section

variable {s : Setup σ} {driver : σ} {moves : List Move}

/-- with nothing under way, and no shutdown, all accepted requests have been carried out -/
theorem Inv.done_eq_accepted {x : Session σ} (h : Inv s driver moves x)
    (unstopped : ∀ l ∈ x.accepted, l.2.stops = false) (queue : x.queue = []) (hand : x.hand = []) :
    x.done.map Ticket.label = x.accepted := by
  rw [h.order, Session.inside, queue, hand, (h.nothing_lost unstopped).1]
  simp only [List.append_nil]

/-- if nothing waits for room either, only requests that were taken back are left out -/
theorem Inv.mem_done {x : Session σ} (h : Inv s driver moves x) (unstopped : ∀ l ∈ x.accepted, l.2.stops = false)
    (queue : x.queue = []) (hand : x.hand = []) (waiting : x.waiting = []) {l : Nat × Command} (hl : l ∈ x.sent)
    (stays : Move.leave l.1 ∉ moves) : l ∈ x.done.map Ticket.label := by
  obtain ⟨hd, hr⟩ := h.nothing_lost unstopped
  have placed : x.placed = x.done ++ x.withdrawn := by
    simp only [Session.placed, Session.inside, Session.outside, queue, hand, waiting, hd, hr, List.append_nil,
      List.nil_append]
  obtain ⟨t, ht, rfl⟩ := List.mem_map.1 (h.located.places.mem_iff.1 hl)
  rw [placed] at ht
  rcases List.mem_append.1 ht with ht | ht
  · exact List.mem_map_of_mem ht
  · exact absurd (h.withdrawn t ht) stays

end

/-- **Every run is serial.** For every driver, every setup, and every order of the moves of any number of clients and of
the daemon, the session does what its commands do one after another in the order of their acceptance. -/
theorem session_serial (s : Setup σ) (driver : σ) (moves : List Move) :
    Serial s driver moves ((Session.start s.journaled ⟨driver, []⟩).run s.journaled moves) := by
  have h := inv_run s.journaled ⟨driver, []⟩ moves
  generalize hx : (Session.start s.journaled ⟨driver, []⟩).run s.journaled moves = x at h ⊢
  have alike := serial_alike s driver x
  have calls : x.managed.driver.calls
      = ((blocks s 1 (x.done.map (·.command)) (.fresh driver s.deviceId)).map (·.2)).flatten := by
    rw [h.managed]
    exact performAll_calls s 1 _ _ _ (Managed.journaled_alike (.fresh driver s.deviceId))
  refine {
    heard := hx ▸ heard_run s.journaled ⟨driver, []⟩ moves
    room := h.room
    order := h.done_prefix
    complete := h.done_eq_accepted
    everything := fun unstopped queue hand waiting l hl stays => h.mem_done unstopped queue hand waiting hl stays
    replies := h.replies.trans alike.value
    delivered := ?_
    own := ?_
    state := by rw [h.managed]; exact alike.managed.driver
    device := by rw [h.managed]; exact alike.managed.device
    counters := by rw [h.managed]; exact alike.managed.counters
    calls := by rw [h.managed]
    requests := ?_
    contiguous := calls }
  · intro i number command hi hlt stays
    rw [← alike.value]
    exact h.delivered hi hlt stays
  · intro number r hr
    rw [← alike.value]
    exact h.own hr
  · rw [blocks_requests, List.filterMap_map]
    rfl

end LineTerminal.Daemon
