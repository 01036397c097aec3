/-
The context of a request tells nothing but where records come from.

Two runs do the same commands, and their enables come with any contexts (`Turn`). None of the drivers of the program reads
a context: it notes the id of the request, and answers the same (`Supplied.kept`). So everything that can be seen is the
same in both runs, apart from the clock and from the ids that are noted (`ContextsAside`): the replies, the device, the
counters and the calls after each command, and the records, one for one. What a context does is to stamp them: every record
of an enable carries the id of its request, and no id if there is none. Who sent the request is nowhere to be seen: requests
with the same ids leave the same, to the last line of the log (`performAll_peers`).

`contexts_aside`: so it is for the scripted driver and for the vendor's in both builds, in every state.
-/
import LineTerminal.Driver.Scripted
import LineTerminal.Driver.Vendor
import LineTerminal.Proofs.Daemon.Records

namespace LineTerminal

open Log (records)
open Audit (Record Twins)

variable {σ : Type}

/-! ## What the drivers do with a context -/

/-- a call apart from the id of its request -/
def Call.untagged : Call → Call
  | hostInit _ => hostInit none
  | call => call

/-- the drivers of the program -/
inductive Supplied : Type → Type 1 where
  | scripted : Supplied Scripted
  | linked {σ : Type} (lib : Vendor.Library σ) : Supplied σ
  | unlinked {σ : Type} : Supplied σ

namespace Supplied

def driver : {σ : Type} → Supplied σ → Driver σ
  | _, scripted => Scripted.driver
  | _, linked lib => Vendor.linked lib
  | _, unlinked => Vendor.unlinked

/-- two states apart from the ids of requests; the scripted driver is the only one that notes them -/
def Same : {σ : Type} → Supplied σ → σ → σ → Prop
  | _, scripted, x, y => x.script = y.script ∧ x.journal.map Call.untagged = y.journal.map Call.untagged
  | _, linked _, x, y => x = y
  | _, unlinked, x, y => x = y

theorem same_refl (b : Supplied σ) (x : σ) : b.Same x x := by
  cases b with
  | scripted => exact ⟨rfl, rfl⟩
  | linked lib => exact rfl
  | unlinked => exact rfl

theorem same_note {x y : Scripted} (h : scripted.Same x y) {call call' : Call} (same : call.untagged = call'.untagged) :
    scripted.Same (x.note call) (y.note call') := by
  refine ⟨h.1, ?_⟩
  simp only [Scripted.note, List.map_append, List.map_singleton, h.2, same]

theorem hostInit_alike (b : Supplied σ) (ctx ctx' : Option RequestContext) {x y : σ} (h : b.Same x y) :
    (b.driver.hostInit ctx x).Alike b.Same (b.driver.hostInit ctx' y) := by
  cases b with
  | scripted => exact ⟨congrArg (·.hostInit.result) h.1, same_note h rfl⟩
  | linked lib =>
    cases h
    exact ⟨rfl, rfl⟩
  | unlinked => exact ⟨rfl, h⟩

theorem readConfig_alike (b : Supplied σ) (olt : OltId) {x y : σ} (h : b.Same x y) :
    (b.driver.readConfig olt x).Alike b.Same (b.driver.readConfig olt y) := by
  cases b with
  | scripted =>
    refine ⟨?_, same_note h rfl⟩
    simp only [driver, Scripted.driver, h.1]
  | linked lib =>
    cases h
    exact ⟨rfl, rfl⟩
  | unlinked =>
    cases h
    exact ⟨rfl, rfl⟩

theorem submit_alike (b : Supplied σ) (olt : OltId) (operation : Operation) {x y : σ} (h : b.Same x y) :
    (b.driver.submit olt operation x).Alike b.Same (b.driver.submit olt operation y) := by
  cases b with
  | scripted =>
    have noted : scripted.Same (x.note (.submit olt operation)) (y.note (.submit olt operation)) := same_note h rfl
    refine ⟨?_, ?_, noted.2⟩
    · simp only [driver, Scripted.driver, h.1]
    · simp only [driver, Scripted.driver, h.1]
  | linked lib =>
    cases h
    exact ⟨rfl, rfl⟩
  | unlinked =>
    cases h
    exact ⟨rfl, rfl⟩

/-- requests with one id are the same to the drivers -/
theorem hostInit_peers (b : Supplied σ) {ctx ctx' : Option RequestContext} (same : requestIdOf ctx = requestIdOf ctx') :
    b.driver.hostInit ctx = b.driver.hostInit ctx' := by
  funext x
  cases b with
  | scripted => simp only [driver, Scripted.driver, same]
  | linked lib => simp only [driver, Vendor.linked, Vendor.hostInitLine, same]
  | unlinked => simp only [driver, Vendor.unlinked, Vendor.hostInitLine, same]

end Supplied

namespace Daemon

/-! ## Runs with other contexts -/

/-- a command, and the context that its request has in another run -/
structure Turn where
  command : Command
  context : Option RequestContext
  deriving DecidableEq, Repr

def Turn.other (turn : Turn) : Command :=
  match turn.command with
  | .enable request => .enable { request with context := turn.context }
  | command => command

def commands (turns : List Turn) : List Command := turns.map (·.command)

def others (turns : List Turn) : List Command := turns.map (·.other)

/-- two devices apart from the clock, over drivers apart from the ids of requests -/
def aside (b : Supplied σ) : Bond (Journaled σ) (Journaled σ) where
  context _ _ := True
  driver x y := b.Same x.state y.state ∧ x.calls.map Call.untagged = y.calls.map Call.untagged
  device x y := x.timeless = y.timeless
  counters := Eq

theorem note_aside {α : Type} (b : Supplied σ) {seen seen' : List Call} {call call' : Call} {a a' : Answer σ α}
    (journal : seen.map Call.untagged = seen'.map Call.untagged) (same : call.untagged = call'.untagged)
    (h : a.Alike b.Same a') : (Driver.note seen call a).Alike (aside b).driver (Driver.note seen' call' a') := by
  refine ⟨h.outcome, h.state, ?_⟩
  simp only [Driver.note, List.map_append, List.map_singleton, journal, same]

theorem aside_kept (b : Supplied σ) (now now' : Time.Timestamp) :
    (aside b).Kept b.driver.journaled b.driver.journaled now now' where
  hostInit ctx ctx' _ _ _ h := note_aside b h.2 rfl (b.hostInit_alike ctx ctx' h.1)
  readConfig olt _ _ h := note_aside b h.2 rfl (b.readConfig_alike olt h.1)
  submit olt operation _ _ h := note_aside b h.2 rfl (b.submit_alike olt operation h.1)
  id _ _ h := congrArg (·.id) h
  commit usable ponPorts _ _ h := Device.timeless_commit h now now' usable ponPorts
  override l _ _ h := Device.timeless_setLifecycle h now now' l
  count event _ _ _ h := congrArg event h

theorem Turn.like (b : Supplied σ) (turn : Turn) : turn.command.Like (aside b) turn.other := by
  obtain ⟨command, context⟩ := turn
  cases command with
  | enable request => exact .enable request.deviceId trivial
  | status => exact .status
  | activate => exact .activate
  | deactivate => exact .deactivate
  | shutdown => exact .shutdown

theorem turns_like (b : Supplied σ) (turns : List Turn) :
    List.Forall₂ (Command.Like (aside b)) (commands turns) (others turns) := by
  induction turns with
  | nil => exact .nil
  | cons turn turns ih => exact .cons (turn.like b) ih

/-! ## Who sent a request -/

/-- of the context of a request, only the id is written to the log, and the driver gets the rest -/
theorem enable_peers (d : Driver σ) (settings : EnableSettings) (now : Time.Timestamp) (id : UInt32)
    {ctx ctx' : Option RequestContext} (same : requestIdOf ctx = requestIdOf ctx') (host : d.hostInit ctx = d.hostInit ctx')
    (m : Managed σ) : enable d settings now ⟨id, ctx⟩ m = enable d settings now ⟨id, ctx'⟩ m := by
  have device : Enable.deviceRecord now ⟨id, ctx⟩ = Enable.deviceRecord now ⟨id, ctx'⟩ := by
    funext category action
    simp only [Enable.deviceRecord, Enable.Request.correlationId, same]
  have port : Enable.portEntries now ⟨id, ctx⟩ = Enable.portEntries now ⟨id, ctx'⟩ := by
    funext olt pon answer
    cases answer with
    | ok u => rfl
    | error e => simp only [Enable.portEntries, Enable.portRecord, Enable.Request.correlationId, same]
  have ports : Enable.activatePort d now ⟨id, ctx⟩ = Enable.activatePort d now ⟨id, ctx'⟩ := by
    funext olt w pon
    simp only [Enable.activatePort, port]
  have verdict : Enable.verdictRecord now ⟨id, ctx⟩ = Enable.verdictRecord now ⟨id, ctx'⟩ := by
    funext found a l
    simp only [Enable.verdictRecord, device]
  have entry : Enable.verdictEntry ⟨id, ctx⟩ = Enable.verdictEntry ⟨id, ctx'⟩ := rfl
  have attempt : Enable.attempt d now ⟨id, ctx⟩ = Enable.attempt d now ⟨id, ctx'⟩ := by
    funext found m
    rw [Enable.attempt, Enable.activatePorts, ports, verdict, entry]
    rfl
  have discover : Enable.discoverAndAttempt d settings now ⟨id, ctx⟩ = Enable.discoverAndAttempt d settings now ⟨id, ctx'⟩ := by
    funext m
    simp only [Enable.discoverAndAttempt, attempt, Enable.readFailedRecord, device]
  simp only [enable, Enable.bringUp, host, discover, Enable.hostInitEntries, Enable.unknownEntries, Enable.beginEntry, device]

/-- does a request have the same id in the other run -/
def Turn.SameId (turn : Turn) : Prop :=
  ∀ request, turn.command = .enable request → requestIdOf turn.context = requestIdOf request.context

theorem perform_peers (s : Setup σ)
    (host : ∀ ctx ctx', requestIdOf ctx = requestIdOf ctx' → s.driver.hostInit ctx = s.driver.hostInit ctx')
    (now : Time.Timestamp) {turn : Turn} (same : turn.SameId) (m : Managed σ) :
    perform s now turn.other m = perform s now turn.command m := by
  obtain ⟨command, context⟩ := turn
  cases command with
  | enable request =>
    have id : requestIdOf context = requestIdOf request.context := same request rfl
    simp only [Turn.other, perform]
    rw [enable_peers s.driver s.settings now request.deviceId id (host _ _ id) m]
  | status => rfl
  | activate => rfl
  | deactivate => rfl
  | shutdown => rfl

/-- **Requests with the same ids leave the same.** -/
theorem performAll_peers (s : Setup σ)
    (host : ∀ ctx ctx', requestIdOf ctx = requestIdOf ctx' → s.driver.hostInit ctx = s.driver.hostInit ctx') (n : Nat)
    {turns : List Turn} (same : ∀ turn ∈ turns, turn.SameId) (m : Managed σ) :
    performAll s n (others turns) m = performAll s n (commands turns) m := by
  induction turns generalizing n m with
  | nil => rfl
  | cons turn turns ih =>
    have first := perform_peers s host (s.clock n) (same turn List.mem_cons_self) m
    have rest := ih (n + 1) (fun t ht => same t (List.mem_cons_of_mem _ ht))
      (perform s (s.clock n) turn.command m).managed
    simp only [others, commands] at rest ⊢
    simp only [List.map_cons, performAll, first, rest]

/-! ## Main result -/

/-- a reply apart from the clock -/
def Reply.timeless : Reply → Reply
  | .status told => .status { told with device := told.device.timeless }
  | reply => reply

theorem Reply.Like.timeless {τ : Type} {b : Bond σ τ} (device : ∀ x y, b.device x y → x.timeless = y.timeless)
    (counters : ∀ c c', b.counters c c' → c = c') {r r' : Reply} (h : r.Like b r') : r.timeless = r'.timeless := by
  cases h with
  | enabled a => rfl
  | status hd hc => simp only [Reply.timeless, device _ _ hd, counters _ _ hc]
  | lifecycle l => rfl
  | stopped => rfl

/-- a record that carries the id of its request, and no id if the request has none -/
structure Tagged (request : Enable.Request) (r : Record) : Prop where
  id : r.correlationId = requestIdOf request.context
  absent : r.correlationId = none ↔ request.context = none ∨ ∃ ctx, request.context = some ctx ∧ ctx.requestId = none

/-- in a run, all records of an enable carry the id of its request -/
def AllTagged (s : Setup σ) (n : Nat) (commands : List Command) (m : Managed σ) : Prop :=
  ∀ (k : Nat) (request : Enable.Request), commands[k]? = some (.enable request) →
    ∃ group, (groups s n commands m)[k]? = some group ∧ ∀ r ∈ group, Tagged request r

/-- a run of the commands of `turns` beside the run with the other contexts, both from `m` -/
structure ContextsAside (b : Supplied σ) (s s' : Setup (Journaled σ)) (n : Nat) (turns : List Turn)
    (m : Managed (Journaled σ)) : Prop where
  replies : (performAll s n (commands turns) m).value.map Reply.timeless
    = (performAll s' n (others turns) m).value.map Reply.timeless
  /-- the device after each of the commands, apart from the clock -/
  device : ∀ k, (after s n (commands turns) m k).device.timeless = (after s' n (others turns) m k).device.timeless
  counters : ∀ k, (after s n (commands turns) m k).counters = (after s' n (others turns) m k).counters
  /-- the state of the driver and the calls, apart from the ids of requests -/
  state : ∀ k, b.Same (after s n (commands turns) m k).driver.state (after s' n (others turns) m k).driver.state
  calls : ∀ k, (after s n (commands turns) m k).driver.calls.map Call.untagged
    = (after s' n (others turns) m k).driver.calls.map Call.untagged
  /-- records are the same, one for one, apart from the times of the commands and the ids of the requests -/
  records : ∀ (k : Nat) (turn : Turn), turns[k]? = some turn → ∃ group group',
    (groups s n (commands turns) m)[k]? = some group ∧ (groups s' n (others turns) m)[k]? = some group' ∧
    List.Forall₂ (Twins (turn.command.stamp (s.clock (n + k))) (turn.other.stamp (s'.clock (n + k)))) group group'
  tagged : AllTagged s n (commands turns) m
  taggedOther : AllTagged s' n (others turns) m
  /-- with one clock, requests with the same ids leave the same, whoever sent them -/
  peers : s'.clock = s.clock → (∀ turn ∈ turns, turn.SameId) →
    performAll s' n (others turns) m = performAll s n (commands turns) m

theorem map_timeless_eq {b : Supplied σ} {rs rs' : List Reply} (h : List.Forall₂ (Reply.Like (aside b)) rs rs') :
    rs.map Reply.timeless = rs'.map Reply.timeless := by
  induction h with
  | nil => rfl
  | cons first _ ih => rw [List.map_cons, List.map_cons, first.timeless (fun _ _ h => h) (fun _ _ h => h), ih]

theorem correlationId_of_twins {first second : Audit.Stamp} {rs rs' : List Record}
    (h : List.Forall₂ (Twins first second) rs rs') :
    (∀ r ∈ rs, r.correlationId = first.correlationId) ∧ ∀ r ∈ rs', r.correlationId = second.correlationId := by
  induction h with
  | nil => exact ⟨List.forall_mem_nil _, List.forall_mem_nil _⟩
  | cons twins _ ih =>
    obtain ⟨r⟩ := twins
    exact ⟨List.forall_mem_cons.2 ⟨rfl, ih.1⟩, List.forall_mem_cons.2 ⟨rfl, ih.2⟩⟩

theorem requestIdOf_eq_none {ctx : Option RequestContext} :
    requestIdOf ctx = none ↔ ctx = none ∨ ∃ c, ctx = some c ∧ c.requestId = none := by
  cases ctx with
  | none => simp [requestIdOf]
  | some c => simp [requestIdOf]

theorem Tagged.of_eq {request : Enable.Request} {r : Record} (id : r.correlationId = requestIdOf request.context) :
    Tagged request r :=
  ⟨id, by rw [id, requestIdOf_eq_none]⟩

/-- **Contexts are put aside.** -/
theorem contexts_aside (b : Supplied σ) (s : Setup σ) (clock' : Nat → Time.Timestamp) (n : Nat) (turns : List Turn)
    (m : Managed σ) :
    ContextsAside b (s.over b.driver).journaled ((s.over b.driver).journaled.under clock') n turns m.journaled := by
  let first := (s.over b.driver).journaled
  let second := first.under clock'
  have like := turns_like b turns
  have start : (aside b).Holds m.journaled m.journaled := ⟨⟨b.same_refl m.driver, rfl⟩, rfl, rfl⟩
  have kept : ∀ i j, (aside b).Kept first.driver b.driver.journaled (first.clock i) (clock' j) :=
    fun i j => aside_kept b (first.clock i) (clock' j)
  -- the first commands of both runs are runs of their own
  have run : ∀ k, (aside b).Holds (after first n (commands turns) m.journaled k)
      (after second n (others turns) m.journaled k) :=
    fun k => (performAll_joins kept (List.forall₂_take k like) n n start).2
  have stamped : ∀ (k : Nat) (turn : Turn), turns[k]? = some turn → ∃ group group',
      (groups first n (commands turns) m.journaled)[k]? = some group ∧
      (groups second n (others turns) m.journaled)[k]? = some group' ∧
      List.Forall₂ (Twins (turn.command.stamp (first.clock (n + k))) (turn.other.stamp (clock' (n + k)))) group group' := by
    intro k turn hk
    have command : (commands turns)[k]? = some turn.command := by rw [commands, List.getElem?_map, hk, Option.map_some]
    have other : (others turns)[k]? = some turn.other := by rw [others, List.getElem?_map, hk, Option.map_some]
    refine ⟨_, _, groups_getElem? command, groups_getElem? other, ?_⟩
    exact (perform_joins (kept (n + k) (n + k)) (turn.like b) (run k)).records
  refine {
    replies := ?_
    device := fun k => (run k).device
    counters := fun k => (run k).counters
    state := fun k => (run k).driver.1
    calls := fun k => (run k).driver.2
    records := stamped
    tagged := ?_
    taggedOther := ?_
    peers := ?_ }
  · obtain ⟨replies, -⟩ := performAll_joins kept like n n start
    exact map_timeless_eq replies
  · intro k request hk
    rw [commands, List.getElem?_map, Option.map_eq_some_iff] at hk
    obtain ⟨turn, hturn, command⟩ := hk
    obtain ⟨group, _, hgroup, _, twins⟩ := stamped k turn hturn
    rw [command] at twins
    exact ⟨group, hgroup, fun r hr => .of_eq ((correlationId_of_twins twins).1 r hr)⟩
  · intro k request hk
    rw [others, List.getElem?_map, Option.map_eq_some_iff] at hk
    obtain ⟨turn, hturn, other⟩ := hk
    obtain ⟨_, group, _, hgroup, twins⟩ := stamped k turn hturn
    rw [other] at twins
    exact ⟨group, hgroup, fun r hr => .of_eq ((correlationId_of_twins twins).2 r hr)⟩
  · intro clock same
    have together : first.under clock' = first := congrArg first.under clock
    show performAll (first.under clock') n _ _ = _
    rw [together]
    refine performAll_peers first ?_ n same m.journaled
    intro ctx ctx' id
    funext j
    simp only [first, Setup.over, Setup.journaled, Driver.journaled, id, b.hostInit_peers id]

end Daemon

end LineTerminal
