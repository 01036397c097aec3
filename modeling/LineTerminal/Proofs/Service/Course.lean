/-
The course of a run that is served.

A run sends two requests, each to a daemon that rests, so both are carried out and answered:
- `ask_one`: a daemon that rests carries out a request that is sent to it, and rests again unless it is to stop;
- `launch_eq_ok`, `launch_serving`: a run whose queue can be made comes to serve, and the enable at the start has been
  answered by then, if it is configured. So a run never ends because that enable got no reply;
- `Begun.stop_eq`: whatever the interrupt is like, the daemon is shut down and comes to its end. So no shutdown is without a
  reply, and no daemon is lost.
-/
import LineTerminal.Service

namespace LineTerminal

variable {σ : Type}

/-! ## Single requests -/

namespace Daemon.Session

/-- a daemon with nothing to do, and a handle for the next request -/
structure Rests (x : Session σ) : Prop where
  phase : x.phase = .idle
  queue : x.queue = []
  waiting : x.waiting = []
  handle : x.handles ≠ 0

/-- a daemon after it has carried out one request more -/
def answered (s : Setup σ) (x : Session σ) (t : Ticket) : Session σ :=
  { x with sent := x.sent ++ [t.label], accepted := x.accepted ++ [t.label] }.carryOut s t

theorem rests_start (s : Setup σ) (driver : σ) : (start s driver).Rests := ⟨rfl, rfl, rfl, Nat.one_ne_zero⟩

theorem Rests.answered {x : Session σ} (rests : x.Rests) (s : Setup σ) {t : Ticket} (goesOn : t.command.stops = false) :
    (x.answered s t).Rests := by
  refine ⟨?_, rests.queue, rests.waiting, rests.handle⟩
  simp [Session.answered, carryOut, goesOn]

/-- a daemon that rests carries out the request that is sent to it; then it rests, or it is gone -/
theorem ask_one (s : Setup σ) {x : Session σ} (rests : x.Rests) {t : Ticket} (present : t.present = true)
    (fresh : t.number ∉ x.sent.map (·.1)) :
    x.ask s [t] = if t.command.stops then (x.answered s t).close s else x.answered s t := by
  have room : 0 < s.capacity := Nat.le_max_right ..
  obtain ⟨managed, queue, waiting, phase, handles, sent, accepted, served, dropped, refused, withdrawn, log⟩ := x
  obtain ⟨rfl, rfl, rfl, handle⟩ := rests
  obtain ⟨number, command, _⟩ := t
  cases present
  have send : send s ⟨managed, [], [], .idle, handles, sent, accepted, served, dropped, refused, withdrawn, log⟩
      ⟨number, command, true⟩ = ⟨managed, [⟨number, command, true⟩], [], .idle, handles, sent ++ [(number, command)],
        accepted ++ [(number, command)], served, dropped, refused, withdrawn, log⟩ := by
    simp [Session.send, step, submit, accept, handle, fresh, room, Ticket.label]
  rw [ask, List.foldl_cons, List.foldl_nil, send]
  cases stops : command.stops <;> simp [settle, turn, run, step, carryOut, answered, now, stops, Ticket.label]

/-- when nothing was lost, the replies are those of the requests that were carried out -/
theorem replies_of_served {x : Session σ} (nothingLost : x.dropped = [] ∧ x.refused = []) :
    x.replies = (x.served.filter (·.1.present)).map (fun a => (a.1.number, .ok a.2)) := by
  simp [replies, nothingLost]

end Daemon.Session

namespace Service

open Daemon (Setup Session Command Reply)
open Log (Entry)

section Run

variable (driver : Driver σ) (clock : Nat → Time.Timestamp) (file : Option String) (c : Config.Agent) (start : σ)

/-! ## Coming to serve -/

def startupWork : Work σ Activation :=
  enable driver c.enable (clock 1) ⟨c.deviceId, some ⟨some "startup", some "openolt-agent"⟩⟩ (.fresh start c.deviceId)

def startupRequests : List (Nat × Command) :=
  if c.enableOnStartup then [(0, .enable ⟨c.deviceId, some ⟨some "startup", some "openolt-agent"⟩⟩)] else []

/-- a daemon that serves: the enable at the start has been answered, if it is configured -/
structure Begun (x : Session σ) : Prop where
  rests : x.Rests
  sent : x.sent = startupRequests c
  served : x.served =
    if c.enableOnStartup then [(startupTicket c, .enabled (startupWork driver clock c start).value)] else []
  managed : x.managed =
    if c.enableOnStartup then (startupWork driver clock c start).managed else .fresh start c.deviceId
  nothingLost : x.dropped = [] ∧ x.refused = []

theorem begun : Begun driver clock c start (begin (setup driver clock c) c start) := by
  have rests := Session.rests_start (setup driver clock c) start
  cases configured : c.enableOnStartup with
  | false =>
    have same : begin (setup driver clock c) c start = Session.start (setup driver clock c) start := by
      simp [begin, configured]
    rw [same]
    refine ⟨rests, ?_, ?_, ?_, rfl, rfl⟩
    · simp [startupRequests, configured, Session.start]
    · simp [configured, Session.start]
    · simp [configured, Session.start, setup]
  | true =>
    have same : begin (setup driver clock c) c start
        = (Session.start (setup driver clock c) start).answered (setup driver clock c) (startupTicket c) := by
      simp only [begin, configured, if_true]
      exact Session.ask_one _ rests rfl List.not_mem_nil
    rw [same]
    refine ⟨rests.answered _ rfl, ?_, ?_, ?_, rfl, rfl⟩
    · rw [startupRequests, if_pos configured]
      rfl
    · rw [if_pos configured]
      rfl
    · rw [if_pos configured]
      rfl

def verdictEntries : List Entry :=
  if c.enableOnStartup then [enabledEntry c.deviceId (startupWork driver clock c start).value] else []

/-- a run that serves: its daemon, and everything that it has logged -/
structure Serving (r : Running σ) : Prop where
  session : r.session = begin (setup driver clock c) c start
  begun : Begun driver clock c start r.session
  log : r.log = openingEntries (clock 0) file c ++ r.session.log ++ verdictEntries driver clock c start

variable {driver clock c start}

/-- the enable at the start is never without a reply -/
theorem Begun.verdict {x : Session σ} (begun : Begun driver clock c start x) :
    startupVerdict x = .ok (if c.enableOnStartup then some (startupWork driver clock c start).value else none) := by
  rw [startupVerdict, Session.reply?, Session.replies_of_served begun.nothingLost, begun.served]
  cases c.enableOnStartup <;> rfl

variable (driver clock c start)

theorem launch_eq_ok (fits : (setup driver clock c).fits = true) :
    ∃ r, launch driver clock file c start = .ok r ∧ Serving driver clock file c start r := by
  have begun := begun driver clock c start
  simp only [launch, fits, Bool.not_true, Bool.false_eq_true, ↓reduceIte, begun.verdict]
  refine ⟨_, rfl, rfl, begun, ?_⟩
  rw [verdictEntries]
  cases c.enableOnStartup <;> rfl

theorem launch_eq_error (fits : (setup driver clock c).fits = false) :
    launch driver clock file c start = .error (.aborted, openingEntries (clock 0) file c) := by
  simp only [launch, fits, Bool.not_false, ↓reduceIte]

variable {driver clock file c start}

theorem launch_serving {r : Running σ} (launched : launch driver clock file c start = .ok r) :
    Serving driver clock file c start r := by
  cases fits : (setup driver clock c).fits with
  | false =>
    rw [launch_eq_error driver clock file c start fits] at launched
    cases launched
  | true =>
    obtain ⟨r', launched', serving⟩ := launch_eq_ok driver clock file c start fits
    cases launched.symm.trans launched'
    exact serving

/-! ## Coming to an end -/

/-- what is left of a daemon after the interrupt: it has carried out the shutdown too, and nothing else -/
structure Ended (x y : Session σ) : Prop where
  gone : y.phase = .gone
  sent : y.sent = x.sent ++ [shutdownTicket.label]
  served : y.served = x.served ++ [(shutdownTicket, .stopped)]
  managed : y.managed = x.managed
  nothingLost : y.dropped = [] ∧ y.refused = []

theorem Begun.ended {x : Session σ} (begun : Begun driver clock c start x) (s : Setup σ) :
    Ended x (x.ask s [shutdownTicket]) := by
  have fresh : shutdownTicket.number ∉ x.sent.map (·.1) := by
    rw [begun.sent, startupRequests]
    cases c.enableOnStartup <;> simp [shutdownTicket]
  have asked : x.ask s [shutdownTicket] = (x.answered s shutdownTicket).close s :=
    Session.ask_one s begun.rests rfl fresh
  have lost : (x.ask s [shutdownTicket]).dropped = x.dropped ++ x.queue
      ∧ (x.ask s [shutdownTicket]).refused = x.refused ++ x.waiting := by
    rw [asked]
    exact ⟨rfl, rfl⟩
  rw [begun.nothingLost.1, begun.nothingLost.2, begun.rests.queue, begun.rests.waiting] at lost
  refine ⟨?_, ?_, ?_, ?_, lost⟩ <;> rw [asked] <;> rfl

/-- the replies at the end: that of the enable, if it is configured, and that of the shutdown -/
theorem Begun.reply? {x y : Session σ} (begun : Begun driver clock c start x) (ended : Ended x y) (n : Nat) :
    y.reply? n = ((if c.enableOnStartup then [(0, Except.ok (Reply.enabled (startupWork driver clock c start).value))]
      else []) ++ [(1, Except.ok Reply.stopped)]).lookup n := by
  rw [Session.reply?, Session.replies_of_served ended.nothingLost, ended.served, begun.served]
  cases c.enableOnStartup <;> rfl

/-- a run that serves comes to a good end, whatever the interrupt is like -/
theorem Begun.stop_eq {r : Running σ} (begun : Begun driver clock c start r.session) (later : Nat → Time.Timestamp)
    (around : Surroundings) :
    let y := r.session.ask (setup driver later r.config) [shutdownTicket]
    stop driver later around r = ⟨.finished, y, r.log ++ interruptEntry around.interrupt
      :: y.log.drop r.session.log.length ++ [completeEntry y.managed.device]⟩ := by
  intro y
  have ended : Ended r.session y := begun.ended _
  have answered : shutdownEntries y = [] := by
    have reply : y.reply? 1 = some (.ok .stopped) := by
      rw [begun.reply? ended]
      cases c.enableOnStartup <;> rfl
    simp only [shutdownEntries, reply]
  have gone : y.phase = .gone := ended.gone
  simp only [stop]
  rw [if_pos gone, answered, List.append_nil]

end Run

end Service

end LineTerminal
