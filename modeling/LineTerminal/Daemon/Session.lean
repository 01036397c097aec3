/-
A daemon and its clients.

Clients hold handles of one bounded queue, send requests through it and wait for room when it is full. The daemon takes
the oldest request, carries it out and replies, until it has carried out a shutdown, or until no handle is left and
nothing is queued. Then it leaves its loop, and its queue goes with it: the requests still queued get no reply, and the
ones still waiting for room find the queue closed.

`Session.step` is one move of the whole system. A client sends a request, gives up waiting, takes another handle or drops
one; a request that waits for room enters the queue; the daemon takes a request, carries it out, or drops its queue. These
are moves of their own, so anything a client does can fall between any two moves of the daemon. Any order of moves is a
run, whatever the number of clients and whatever each of them asks for.
-/
import LineTerminal.Daemon.Server

namespace LineTerminal.Daemon

open Log (Entry)

structure Ticket where
  /-- tells requests apart -/
  number : Nat
  command : Command
  /-- does the requester still wait for the reply -/
  present : Bool
  deriving DecidableEq, Repr

/-- a request apart from its requester -/
def Ticket.label (t : Ticket) : Nat × Command := (t.number, t.command)

/-- where the daemon is in its loop -/
inductive Phase where
  /-- it waits for a request -/
  | idle
  /-- it has taken a request and has not carried it out yet -/
  | busy (t : Ticket)
  /-- it has left the loop, its queue is still there -/
  | leaving
  /-- it is gone, and its queue with it -/
  | gone
  deriving DecidableEq, Repr

/-- a daemon with everything that is on its way to it -/
structure Session (σ : Type) where
  managed : Managed σ
  /-- accepted requests, oldest first -/
  queue : List Ticket
  /-- requests waiting for room in the queue, oldest first -/
  waiting : List Ticket
  phase : Phase
  /-- how many handles of the queue there are, those of waiting requests aside -/
  handles : Nat
  /-- the requests sent so far -/
  sent : List (Nat × Command)
  /-- the requests the queue has accepted so far -/
  accepted : List (Nat × Command)
  /-- the requests carried out so far, with their replies -/
  served : List (Ticket × Reply)
  /-- accepted requests that were queued when the daemon went -/
  dropped : List Ticket
  /-- requests that found the queue closed -/
  refused : List Ticket
  /-- requests whose requesters left before the queue had room for them -/
  withdrawn : List Ticket
  log : List Entry

inductive Move where
  /-- a client sends a request under a number that was not used before -/
  | send (number : Nat) (command : Command)
  /-- a request that waits for room enters the queue -/
  | enter (number : Nat)
  /-- a requester does not wait any longer -/
  | leave (number : Nat)
  /-- a handle of the queue is copied -/
  | clone
  /-- a handle of the queue is dropped -/
  | drop
  /-- the daemon takes the oldest request, or finds that there is none and that no handle is left -/
  | receive
  /-- the daemon carries out the request it has taken, and replies -/
  | carryOut
  /-- the daemon drops its queue -/
  | close
  deriving DecidableEq, Repr

/-- a queue holds at least one request -/
def Setup.capacity {σ : Type} (s : Setup σ) : Nat := max s.depth.toNat 1

/-- the longest queue that can be made -/
def maxCapacity : Nat := 2305843009213693951

/-- can the queue be made -/
def Setup.fits {σ : Type} (s : Setup σ) : Bool := s.capacity ≤ maxCapacity

/-- a request after the requester of a number has given up -/
def Ticket.abandon (number : Nat) (t : Ticket) : Ticket :=
  if t.number = number then { t with present := false } else t

/-- the daemon after the requester of a number has given up -/
def Phase.abandon (number : Nat) : Phase → Phase
  | .busy t => .busy (t.abandon number)
  | p => p

namespace Session

variable {σ : Type}

/-- a daemon that has just started, and the first handle of its queue -/
def start (s : Setup σ) (driver : σ) : Session σ where
  managed := .fresh driver s.deviceId
  queue := []
  waiting := []
  phase := .idle
  handles := 1
  sent := []
  accepted := []
  served := []
  dropped := []
  refused := []
  withdrawn := []
  log := startEntries s (s.clock 0)

/-- the time of the next piece of work -/
def now (s : Setup σ) (x : Session σ) : Time.Timestamp := s.clock (x.served.length + 1)

def accept (x : Session σ) (t : Ticket) : Session σ :=
  { x with queue := x.queue ++ [t], accepted := x.accepted ++ [t.label] }

/-- a request reaches the queue: it is accepted, waits for room, or finds the queue closed -/
def submit (s : Setup σ) (x : Session σ) (t : Ticket) : Session σ :=
  if x.phase = .gone then { x with refused := x.refused ++ [t] }
  else if x.queue.length < s.capacity then x.accept t
  else { x with waiting := x.waiting ++ [t] }

def carryOut (s : Setup σ) (x : Session σ) (t : Ticket) : Session σ :=
  let w := Daemon.serve s (x.now s) t.command t.present x.managed
  { x with
    managed := w.managed
    phase := if t.command.stops then .leaving else .idle
    served := x.served ++ [(t, w.value)]
    log := x.log ++ w.log }

/-- the daemon goes: what is queued gets no reply, what waits finds the queue closed -/
def close (s : Setup σ) (x : Session σ) : Session σ :=
  { x with
    queue := []
    waiting := []
    phase := .gone
    dropped := x.dropped ++ x.queue
    refused := x.refused ++ x.waiting
    log := x.log ++ stopEntries s (x.now s) x.managed }

/-- one move; what is not possible changes nothing -/
def step (s : Setup σ) (x : Session σ) : Move → Session σ
  | .send number command =>
    if x.handles = 0 ∨ number ∈ x.sent.map (·.1) then x
    else { x with sent := x.sent ++ [(number, command)] }.submit s ⟨number, command, true⟩
  | .enter number =>
    if x.queue.length < s.capacity then
      match x.waiting.find? (·.number == number) with
      | none => x
      | some t => { x with waiting := x.waiting.erase t }.accept t
    else x
  | .leave number =>
    { x with
      queue := x.queue.map (·.abandon number)
      waiting := x.waiting.filter (·.number != number)
      withdrawn := x.withdrawn ++ x.waiting.filter (·.number == number)
      phase := x.phase.abandon number }
  | .clone => if x.handles = 0 then x else { x with handles := x.handles + 1 }
  | .drop => { x with handles := x.handles - 1 }
  | .receive =>
    match x.phase, x.queue with
    | .idle, t :: rest => { x with queue := rest, phase := .busy t }
    | .idle, [] => if x.handles = 0 ∧ x.waiting = [] then { x with phase := .leaving } else x
    | _, _ => x
  | .carryOut =>
    match x.phase with
    | .busy t => x.carryOut s t
    | _ => x
  | .close => if x.phase = .leaving then x.close s else x

/-- a run: moves one after another -/
def run (s : Setup σ) (x : Session σ) (moves : List Move) : Session σ := moves.foldl (step s) x

/-- the moves of the daemon for one request -/
def turn : List Move := [.receive, .carryOut, .close]

/-- the daemon serves until nothing is queued -/
def settle (s : Setup σ) (x : Session σ) : Session σ := x.run s (x.queue.flatMap (fun _ => turn))

/-- the replies that requesters got, and the refusals -/
def replies (x : Session σ) : List (Nat × Except Refusal Reply) :=
  (x.served.filter (·.1.present)).map (fun a => (a.1.number, .ok a.2))
  ++ (x.dropped.filter (·.present)).map (fun t => (t.number, .error .noReply))
  ++ (x.refused.filter (·.present)).map (fun t => (t.number, .error .queueClosed))

/-- what a requester got -/
def reply? (x : Session σ) (number : Nat) : Option (Except Refusal Reply) := x.replies.lookup number

/-- a client sends a request; if there is no room the daemon first serves what is queued -/
def send (s : Setup σ) (x : Session σ) (t : Ticket) : Session σ :=
  let x := x.step s (.send t.number t.command)
  if x.waiting.isEmpty then x else (x.settle s).step s (.enter t.number)

/-- clients send requests in order, then wait until all have been served -/
def ask (s : Setup σ) (x : Session σ) (ts : List Ticket) : Session σ :=
  (ts.foldl (send s) x).settle s

end Session

end LineTerminal.Daemon
