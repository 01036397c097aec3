/-
What requesters get.

- `heard_run`: the requests of a session are those that clients sent while there was a handle.
- `Inv.reply?_eq_some`: as no number is used twice, the reply of a requester is found by its number.
- `Inv.reply_served`, `Inv.reply_dropped`, `Inv.reply_refused`: a requester that never left gets the answer that goes with
  the place of its request.
-/
import LineTerminal.Proofs.Daemon.Bookkeeping
import LineTerminal.Proofs.Driver.Simulation

namespace LineTerminal.Daemon

variable {σ : Type} {s : Setup σ} {driver : σ} {moves : List Move} {x : Session σ}

/-! ## Requests are heard -/

/-- while there is a handle, a request under a number that was not used before is sent, and stays so -/
theorem mem_sent_of_send (s : Setup σ) (x : Session σ) {number : Nat} {command : Command} (after : List Move)
    (handles : x.handles ≠ 0) (fresh : number ∉ x.sent.map (·.1)) :
    (number, command) ∈ (x.run s (.send number command :: after)).sent := by
  refine (run_grows s _ after).sent.subset ?_
  simp only [Session.step, handles, fresh, or_self, ↓reduceIte, Session.submit]
  split_ifs
  · exact List.mem_append_right _ (List.mem_singleton_self _)
  · exact List.mem_append_right _ (List.mem_singleton_self _)
  · exact List.mem_append_right _ (List.mem_singleton_self _)

/-! ## The order of acceptance -/

/-- the accepted requests, those that were carried out in front -/
theorem Inv.accepted_eq (h : Inv s driver moves x) :
    x.accepted = x.done.map Ticket.label ++ (x.hand ++ x.queue ++ x.dropped).map Ticket.label := by
  rw [h.order, Session.inside, ← List.map_append, List.append_assoc, List.append_assoc, List.append_assoc]

theorem Inv.done_prefix (h : Inv s driver moves x) : x.done.map Ticket.label <+: x.accepted := by
  rw [h.accepted_eq]
  exact List.prefix_append ..

theorem Inv.accepted_sent (h : Inv s driver moves x) : ∀ l ∈ x.accepted, l ∈ x.sent := by
  intro l hl
  rw [h.order] at hl
  refine h.located.places.mem_iff.2 ?_
  rw [Session.placed, List.map_append]
  exact List.mem_append_left _ hl

theorem Inv.nodup_placed (h : Inv s driver moves x) : (x.placed.map (·.number)).Nodup := by
  have hp := h.located.places.map (·.1)
  rw [List.map_map] at hp
  exact hp.nodup_iff.1 h.located.numbers

theorem Inv.nodup_accepted (h : Inv s driver moves x) : (x.accepted.map (·.1)).Nodup := by
  have hp := h.nodup_placed
  rw [Session.placed, List.map_append] at hp
  rw [h.order, List.map_map]
  exact (List.nodup_append.1 hp).1

theorem Inv.not_stopped (h : Inv s driver moves x) (unstopped : ∀ l ∈ x.accepted, l.2.stops = false) :
    ¬ Stopped x.done := by
  rintro ⟨before, t, hdone, -, ht⟩
  have hm : t.label ∈ x.done.map Ticket.label := by
    rw [hdone]
    exact List.mem_map_of_mem (List.mem_append_right _ (List.mem_singleton_self t))
  have hf : t.command.stops = false := unstopped t.label (h.done_prefix.subset hm)
  rw [ht] at hf
  cases hf

/-- unless a shutdown was accepted, nothing is dropped or refused -/
theorem Inv.nothing_lost (h : Inv s driver moves x) (unstopped : ∀ l ∈ x.accepted, l.2.stops = false) :
    x.dropped = [] ∧ x.refused = [] := by
  by_cases hg : x.phase = .gone
  · obtain ⟨-, -, hs | ⟨-, -, hd, hr⟩⟩ := h.stage.gone_inv hg
    · exact absurd hs (h.not_stopped unstopped)
    · exact ⟨hd, hr⟩
  · exact h.stage.nothing_lost hg

/-- the request that was carried out as the `i`-th one, and its reply -/
theorem Inv.served_iff (h : Inv s driver moves x) (i : Nat) (l : Nat × Command) (r : Reply) :
    (∃ t, x.served[i]? = some (t, r) ∧ t.label = l) ↔
      x.accepted[i]? = some l ∧ i < x.served.length ∧ (x.serial s driver).value[i]? = some r := by
  obtain ⟨later, hlater⟩ := h.done_prefix
  have accepted : i < x.served.length → x.accepted[i]? = (x.served[i]?).map (·.1.label) := by
    intro hi
    have hi' : i < (x.done.map Ticket.label).length := by
      simp only [Session.done, List.length_map]
      exact hi
    rw [← hlater, List.getElem?_append_left hi']
    simp only [Session.done, List.map_map, List.getElem?_map, Function.comp_def]
  have value : (x.serial s driver).value[i]? = (x.served[i]?).map (·.2) := by
    rw [← h.replies, List.getElem?_map]
  constructor
  · rintro ⟨t, ht, rfl⟩
    have hi := (List.getElem?_eq_some_iff.1 ht).1
    refine ⟨?_, hi, ?_⟩
    · rw [accepted hi, ht]
      rfl
    · rw [value, ht]
      rfl
  · rintro ⟨ha, hi, hv⟩
    rw [accepted hi, List.getElem?_eq_getElem hi] at ha
    rw [value, List.getElem?_eq_getElem hi] at hv
    refine ⟨x.served[i].1, ?_, Option.some.inj ha⟩
    rw [List.getElem?_eq_getElem hi, ← Option.some.inj hv]

/-- the requests of a session are those of its clients; `moves` are the moves of the whole run -/
structure Heard (s : Setup σ) (driver : σ) (moves : List Move) (x : Session σ) : Prop where
  /-- requests have numbers of their own -/
  numbers : (x.sent.map (·.1)).Nodup
  /-- clients have sent them -/
  origin : ∀ l ∈ x.sent, Move.send l.1 l.2 ∈ moves
  /-- whatever a client sends while there is a handle, under a new number, is a request of the session -/
  heard : ∀ before number command after, moves = before ++ .send number command :: after →
    let y := (Session.start s driver).run s before
    y.handles ≠ 0 → number ∉ y.sent.map (·.1) → (number, command) ∈ x.sent
  /-- the queue accepts requests that were sent -/
  accepted : ∀ l ∈ x.accepted, l ∈ x.sent
  /-- and each of them at most once -/
  acceptedOnce : (x.accepted.map (·.1)).Nodup

theorem heard_run (s : Setup σ) (driver : σ) (moves : List Move) :
    Heard s driver moves ((Session.start s driver).run s moves) := by
  have h := inv_run s driver moves
  refine ⟨h.located.numbers, h.located.origin, ?_, h.accepted_sent, h.nodup_accepted⟩
  rintro before number command after rfl y handles fresh
  rw [Session.run, List.foldl_append]
  exact mem_sent_of_send s y after handles fresh

/-! ## Replies are found by their numbers -/

theorem lookup_eq_some_of_nodup {β : Type} {l : List (Nat × β)} (h : (l.map (·.1)).Nodup) (k : Nat) (v : β) :
    l.lookup k = some v ↔ (k, v) ∈ l := by
  rw [List.lookup_eq_some_iff]
  constructor
  · rintro ⟨before, after, rfl, -⟩
    exact List.mem_append_right _ (List.mem_cons_self ..)
  · intro hm
    obtain ⟨before, after, rfl⟩ := List.append_of_mem hm
    refine ⟨before, after, rfl, ?_⟩
    intro p hp
    rw [List.map_append, List.nodup_append] at h
    have hne := h.2.2 p.1 (List.mem_map_of_mem hp) k (List.mem_map_of_mem (List.mem_cons_self ..))
    exact bne_iff_ne.2 (Ne.symm hne)

theorem Inv.nodup_replies (h : Inv s driver moves x) : (x.replies.map (·.1)).Nodup := by
  refine h.nodup_placed.sublist ?_
  simp only [Session.replies, Session.placed, Session.inside, Session.outside, Session.done, List.map_append,
    List.map_map]
  refine List.Sublist.append (List.Sublist.append ?_ ?_) ?_
  · rw [List.append_assoc]
    exact (List.filter_sublist.map _).trans (List.sublist_append_left ..)
  · exact List.filter_sublist.map _
  · rw [List.append_assoc]
    exact (List.filter_sublist.map _).trans
      ((List.sublist_append_left ..).trans (List.sublist_append_right ..))

/-- **A requester got what stands under its number.** -/
theorem Inv.reply?_eq_some (h : Inv s driver moves x) (number : Nat) (a : Except Refusal Reply) :
    x.reply? number = some a ↔ (number, a) ∈ x.replies :=
  lookup_eq_some_of_nodup h.nodup_replies number a

/-- a requester that never left still waits -/
theorem Inv.present (h : Inv s driver moves x) {t : Ticket} (ht : t ∈ x.placed)
    (stays : Move.leave t.number ∉ moves) : t.present = true := by
  cases hp : t.present with
  | true => rfl
  | false => exact absurd (h.located.absent t ht hp) stays

theorem Inv.reply_served (h : Inv s driver moves x) {t : Ticket} {r : Reply} (ht : (t, r) ∈ x.served)
    (stays : Move.leave t.number ∉ moves) : x.reply? t.number = some (.ok r) := by
  have placed : t ∈ x.placed := by
    simp only [Session.placed, Session.inside, List.mem_append, Session.done]
    exact .inl (.inl (.inl (.inl (List.mem_map_of_mem (f := (·.1)) ht))))
  rw [h.reply?_eq_some]
  refine List.mem_append_left _ (List.mem_append_left _ ?_)
  exact List.mem_map_of_mem (f := fun a : Ticket × Reply => (a.1.number, Except.ok a.2))
    (List.mem_filter.2 ⟨ht, h.present placed stays⟩)

theorem Inv.reply_dropped (h : Inv s driver moves x) {t : Ticket} (ht : t ∈ x.dropped)
    (stays : Move.leave t.number ∉ moves) : x.reply? t.number = some (.error .noReply) := by
  have placed : t ∈ x.placed := List.mem_append_left _ (List.mem_append_right _ ht)
  rw [h.reply?_eq_some]
  refine List.mem_append_left _ (List.mem_append_right _ ?_)
  exact List.mem_map_of_mem (f := fun t : Ticket => (t.number, Except.error Refusal.noReply))
    (List.mem_filter.2 ⟨ht, h.present placed stays⟩)

theorem Inv.reply_refused (h : Inv s driver moves x) {t : Ticket} (ht : t ∈ x.refused)
    (stays : Move.leave t.number ∉ moves) : x.reply? t.number = some (.error .queueClosed) := by
  have placed : t ∈ x.placed := by
    simp only [Session.placed, Session.outside, List.mem_append]
    exact .inr (.inl (.inr ht))
  rw [h.reply?_eq_some]
  refine List.mem_append_right _ ?_
  exact List.mem_map_of_mem (f := fun t : Ticket => (t.number, Except.error Refusal.queueClosed))
    (List.mem_filter.2 ⟨ht, h.present placed stays⟩)

/-- a reply belongs to a request that was carried out -/
theorem Inv.served_of_reply (h : Inv s driver moves x) {number : Nat} {r : Reply}
    (hr : x.reply? number = some (.ok r)) : ∃ t, (t, r) ∈ x.served ∧ t.number = number := by
  rw [h.reply?_eq_some] at hr
  simp only [Session.replies, List.mem_append, List.mem_map, List.mem_filter, Prod.mk.injEq, reduceCtorEq, and_false,
    exists_false, or_false, Except.ok.injEq] at hr
  obtain ⟨⟨t, r'⟩, ⟨ht, -⟩, hn, rfl⟩ := hr
  exact ⟨t, ht, hn⟩

theorem Inv.delivered (h : Inv s driver moves x) {i : Nat} {l : Nat × Command} (hi : x.accepted[i]? = some l)
    (hlt : i < x.served.length) (stays : Move.leave l.1 ∉ moves) :
    ∃ r, (x.serial s driver).value[i]? = some r ∧ x.reply? l.1 = some (.ok r) := by
  have hv : (x.serial s driver).value[i]? = some x.served[i].2 := by
    rw [← h.replies, List.getElem?_map, List.getElem?_eq_getElem hlt]
    rfl
  obtain ⟨t, ht, rfl⟩ := (h.served_iff i l _).2 ⟨hi, hlt, hv⟩
  exact ⟨_, hv, h.reply_served (List.mem_of_getElem? ht) stays⟩

theorem Inv.own (h : Inv s driver moves x) {number : Nat} {r : Reply} (hr : x.reply? number = some (.ok r)) :
    ∃ (i : Nat) (command : Command), x.accepted[i]? = some (number, command)
      ∧ (x.serial s driver).value[i]? = some r := by
  obtain ⟨t, ht, rfl⟩ := h.served_of_reply hr
  obtain ⟨i, hi⟩ := List.getElem?_of_mem ht
  obtain ⟨ha, -, hv⟩ := (h.served_iff i t.label r).1 ⟨t, hi, rfl⟩
  exact ⟨i, t.command, ha, hv⟩

theorem serial_alike (s : Setup σ) (driver : σ) {τ : Type} (x : Session τ) :
    (x.serial s.journaled ⟨driver, []⟩).Alike Journaled.Of (x.serial s driver) :=
  performAll_journaled s 1 _ (.fresh driver s.deviceId)

end LineTerminal.Daemon
