/-
A daemon over the vendor's library keeps within the library's range.

The configuration of the daemon has been checked, the library may answer whatever it likes, and its clients may do whatever
they like. `Confined` says of a session:
- the entries into the library are the calls of the daemon, one for one and with the same ids, so that the checks of the
  driver refuse nothing;
- every call is about the configured device, and every activation about an interface below 128;
- no result has more than 128 ports, and no larger number is recorded for the device.

`daemon_confined`: so it is after any moves. One command keeps to the range whatever the driver answers (`perform_tame`), so
all commands do (`performAll_tame`); and as the checks never meet another id, the driver does the same without them, where
nothing can keep a call from the library (`forwarding_entered`).
-/
import LineTerminal.Driver.Library
import LineTerminal.Proofs.Daemon.Bookkeeping
import LineTerminal.Proofs.Driver.Range
import LineTerminal.Service

namespace LineTerminal

open Vendor (Library LibraryCall RawTopology maxOlts maxPonInterfaces linked forwarding)

variable {σ : Type}

/-! ## Calls and entries -/

namespace Vendor

/-- a state of a library together with the entries that led to it, oldest first -/
structure Entered (σ : Type) where
  state : σ
  entries : List LibraryCall

/-- the same library with a journal of the entries into it -/
def Library.entered (lib : Library σ) : Library (Entered σ) where
  hostInit s :=
    let r := lib.hostInit s.state
    (r.1, ⟨r.2, s.entries ++ [.hostInit]⟩)
  readConfig olt s :=
    let r := lib.readConfig olt s.state
    (r.1, r.2.1, ⟨r.2.2, s.entries ++ [.readConfig olt]⟩)
  activatePon olt pon s :=
    let r := lib.activatePon olt pon s.state
    (r.1, ⟨r.2, s.entries ++ [.activatePon olt pon]⟩)

end Vendor

namespace Call

/-- what the checks of the driver say to a call -/
def check : Call → Except DriverError Unit
  | hostInit _ => .ok ()
  | readConfig olt => Vendor.checkOlt olt
  | submit olt operation => Vendor.checkSubmit olt operation

/-- a call about this device, and about no interface but those that the library knows -/
def Within (id : UInt32) : Call → Prop
  | hostInit _ => True
  | readConfig olt => olt.raw = id
  | submit olt operation => olt.raw = id ∧ operation.target.raw < maxPonInterfaces

theorem Within.check {id : UInt32} (known : id < maxOlts) {call : Call} (h : call.Within id) : call.check = .ok () := by
  cases call with
  | hostInit requestId => rfl
  | readConfig olt =>
    have same : olt.raw = id := h
    exact Vendor.checkOlt_eq_ok (same ▸ known)
  | submit olt operation =>
    obtain ⟨same, target⟩ := h
    exact Vendor.checkSubmit_eq_ok (same ▸ known) target

end Call

/-! ## One command -/

theorem Enable.Traffic.within {d : Driver σ} {settings : EnableSettings} {request : Request} {m : Managed σ}
    {calls : List Call} {ports : List PortReport} (h : Traffic d settings request m calls ports)
    (modest : Modest d settings) :
    (∀ call ∈ calls, call.Within m.device.id) ∧ ports.length ≤ maxPonInterfaces.toNat := by
  cases h with
  | unknown other => exact ⟨nofun, Nat.zero_le _⟩
  | hostFailed known e host =>
    refine ⟨fun call hcall => ?_, Nat.zero_le _⟩
    rw [List.mem_singleton.1 hcall]
    trivial
  | readFailed known host e read other policy =>
    refine ⟨fun call hcall => ?_, Nat.zero_le _⟩
    rcases List.mem_cons.1 hcall with rfl | hcall
    · trivial
    · rw [List.mem_singleton.1 hcall]
      rfl
  | attempted known host n count pons order ports length reports =>
    have size : n ≤ maxPonInterfaces := count.le modest
    refine ⟨fun call hcall => ?_, length ▸ UInt32.le_iff_toNat_le.1 size⟩
    rcases List.mem_cons.1 hcall with rfl | hcall
    · trivial
    · rcases List.mem_cons.1 hcall with rfl | hcall
      · rfl
      · obtain ⟨pon, hpon, rfl⟩ := List.mem_map.1 hcall
        exact ⟨rfl, UInt32.lt_of_lt_of_le (raw_lt_of_numbered order hpon) size⟩

namespace Daemon

/-- a device of this id whose calls and whose record keep to the range -/
structure Tame (id : UInt32) (m : Managed (Journaled σ)) : Prop where
  device : m.device.id = id
  calls : ∀ call ∈ m.driver.calls, call.Within id
  recorded : ∀ n, m.device.ponPorts = some n → n ≤ maxPonInterfaces

/-- a reply whose ports keep to the range -/
def Reply.Tame (r : Reply) : Prop := ∀ a, r = .enabled a → a.ports.length ≤ maxPonInterfaces.toNat

/-- what a command adds to the journal is within range, and so are the ports of its reply -/
theorem perform_within (s : Setup σ) (modest : Modest s.driver s.settings) (now : Time.Timestamp) (command : Command)
    (m : Managed (Journaled σ)) :
    (∃ calls, (perform s.journaled now command m).managed.driver.calls = m.driver.calls ++ calls
        ∧ ∀ call ∈ calls, call.Within m.device.id)
      ∧ (perform s.journaled now command m).value.Tame := by
  -- the calls of an enable are known for a journal that starts empty, so the command is compared with that run
  let n : Managed σ := ⟨m.driver.state, m.device, m.counters⟩
  have hm : m.Alike (Journaled.Longer m.driver.calls) n.journaled := ⟨⟨rfl, (List.append_nil _).symm⟩, rfl, rfl⟩
  obtain ⟨value, managed⟩ := perform_alike (s := s.journaled) (journaled_longer s.driver _) now command hm
  cases command with
  | enable request =>
    obtain ⟨within, length⟩ := (Enable.journaled_traffic s.driver s.settings now request n).within modest
    refine ⟨⟨_, managed.driver.2, within⟩, ?_⟩
    rintro a ha
    cases value.symm.trans ha
    exact length
  | status => exact ⟨⟨[], (List.append_nil _).symm, nofun⟩, nofun⟩
  | activate => exact ⟨⟨[], (List.append_nil _).symm, nofun⟩, nofun⟩
  | deactivate => exact ⟨⟨[], (List.append_nil _).symm, nofun⟩, nofun⟩
  | shutdown => exact ⟨⟨[], (List.append_nil _).symm, nofun⟩, nofun⟩

theorem attempted_le {command : Command} {r : Reply} (h : r.Tame) {k : Nat} (hk : attempted (command, r) = some k) :
    k ≤ maxPonInterfaces.toNat := by
  unfold attempted at hk
  split at hk
  · rename_i a heq
    cases heq
    split at hk
    · cases hk
    · cases hk
      exact h a rfl
  · cases hk

/-- **A command keeps to the range.** -/
theorem perform_tame (s : Setup σ) (modest : Modest s.driver s.settings) (now : Time.Timestamp) (command : Command)
    {id : UInt32} {m : Managed (Journaled σ)} (h : Tame id m) :
    Tame id (perform s.journaled now command m).managed ∧ (perform s.journaled now command m).value.Tame := by
  obtain ⟨⟨calls, added, within⟩, reply⟩ := perform_within s modest now command m
  obtain ⟨-, recorded, same⟩ := perform_device s.journaled now command m
  refine ⟨⟨same.trans h.device, fun call hcall => ?_, fun n hn => ?_⟩, reply⟩
  · rw [added] at hcall
    rcases List.mem_append.1 hcall with hcall | hcall
    · exact h.calls call hcall
    · exact h.device ▸ within call hcall
  · rw [hn, Option.map_some] at recorded
    rcases Option.or_eq_some_iff.1 recorded.symm with new | ⟨-, old⟩
    · have size : n.toNat ≤ maxPonInterfaces.toNat := attempted_le reply new
      exact UInt32.le_iff_toNat_le.2 size
    · obtain ⟨k, hk, hkn⟩ := Option.map_eq_some_iff.1 old
      rw [← UInt32.toNat_inj.1 hkn]
      exact h.recorded k hk

/-- **Commands keep to the range**, one after another. -/
theorem performAll_tame (s : Setup σ) (modest : Modest s.driver s.settings) (n : Nat) (commands : List Command)
    {id : UInt32} {m : Managed (Journaled σ)} (h : Tame id m) :
    Tame id (performAll s.journaled n commands m).managed
      ∧ ∀ r ∈ (performAll s.journaled n commands m).value, r.Tame := by
  induction commands generalizing n m with
  | nil => exact ⟨h, fun _ hr => absurd hr List.not_mem_nil⟩
  | cons command commands ih =>
    obtain ⟨tame, reply⟩ := perform_tame s modest (s.clock n) command h
    obtain ⟨later, replies⟩ := ih (n + 1) tame
    refine ⟨later, fun r hr => ?_⟩
    rcases List.mem_cons.1 hr with rfl | hr
    · exact reply
    · exact replies r hr

/-! ## Forwarding -/

/-- a journal of calls beside a library that was entered once for each of them -/
def Forwarded (j k : Journaled (Vendor.Entered σ)) : Prop := j = k ∧ j.state.entries = j.calls.map Call.entry

theorem forwarding_entered (lib : Library σ) :
    (forwarding lib.entered).journaled.Alike Forwarded (forwarding lib.entered).journaled where
  hostInit ctx j k h := by
    obtain ⟨rfl, h⟩ := h
    refine ⟨rfl, rfl, ?_⟩
    simp [Driver.journaled, Driver.note, forwarding, linked, Library.entered, h, Call.entry]
  readConfig olt j k h := by
    obtain ⟨rfl, h⟩ := h
    refine ⟨rfl, rfl, ?_⟩
    simp [Driver.journaled, Driver.note, forwarding, Library.entered, h, Call.entry]
  submit olt operation j k h := by
    obtain ⟨rfl, h⟩ := h
    refine ⟨rfl, rfl, ?_⟩
    simp [Driver.journaled, Driver.note, forwarding, Library.entered, h, Call.entry]

/-- **With the checks it is the same**, as they meet no id that the library does not know. -/
theorem performAll_entered {s : Setup (Vendor.Entered σ)} {lib : Library σ} (driver : s.driver = linked lib.entered)
    (fallback : s.settings.fallbackPonPorts ≤ maxPonInterfaces) (n : Nat) (commands : List Command)
    {m : Managed (Journaled (Vendor.Entered σ))} (known : m.device.id < maxOlts)
    (h : m.driver.state.entries = m.driver.calls.map Call.entry) :
    (performAll s.journaled n commands m).managed.driver.state.entries
      = (performAll s.journaled n commands m).managed.driver.calls.map Call.entry := by
  have agree : s.journaled.driver.AgreeKnown (forwarding lib.entered).journaled := by
    simp only [Setup.journaled, driver]
    exact (Vendor.linked_agree lib.entered).journaled
  have modest : Modest s.journaled.driver s.journaled.settings := by
    simp only [Setup.journaled, driver]
    exact (Vendor.modest_linked lib.entered fallback).journaled
  rw [performAll_agree agree modest n commands known]
  have alike := performAll_alike (s := s.journaled.over (forwarding lib.entered).journaled) (forwarding_entered lib)
    commands n (m := m) (n := m) ⟨⟨rfl, h⟩, rfl, rfl⟩
  exact alike.managed.driver.2

/-! ## Sessions -/

/-- a session keeps to the range of the library -/
structure Confined (c : Config.Agent) (x : Session (Journaled (Vendor.Entered σ))) : Prop where
  /-- every call reaches the library, with its ids -/
  forwarded : x.managed.driver.state.entries = x.managed.driver.calls.map Call.entry
  passed : ∀ call ∈ x.managed.driver.calls, call.check = .ok ()
  within : ∀ call ∈ x.managed.driver.calls, call.Within c.deviceId
  ports : ∀ t a, (t, Reply.enabled a) ∈ x.served → a.ports.length ≤ maxPonInterfaces.toNat
  recorded : ∀ n, x.managed.device.ponPorts = some n → n ≤ maxPonInterfaces

/-- **A daemon with a checked configuration is confined.** For every valid configuration, every library, whatever it
answers, and every order of the moves of any number of clients and of the daemon. -/
theorem daemon_confined (c : Config.Agent) (valid : c.validate = .ok ()) (lib : Library σ) (start : σ)
    (clock : Nat → Time.Timestamp) (moves : List Move) :
    let s := (Service.setup (linked lib.entered) clock c).journaled
    Confined c ((Session.start s ⟨⟨start, []⟩, []⟩).run s moves) := by
  intro s
  obtain ⟨known, ⟨-, fallback⟩, -⟩ := c.validate_eq_ok_iff.1 valid
  let driver : Journaled (Vendor.Entered σ) := ⟨⟨start, []⟩, []⟩
  have h : Inv s driver moves ((Session.start s driver).run s moves) := inv_run s driver moves
  show Confined c ((Session.start s driver).run s moves)
  generalize (Session.start s driver).run s moves = x at h ⊢
  have modest : Modest (linked lib.entered) c.enable := Vendor.modest_linked lib.entered fallback
  have fresh : Tame c.deviceId (.fresh driver c.deviceId) := ⟨rfl, nofun, nofun⟩
  -- what the session has done is one run of the served commands, in their order
  obtain ⟨tame, replies⟩ := performAll_tame (Service.setup (linked lib.entered) clock c) modest 1
    (x.done.map (·.command)) fresh
  have entered := performAll_entered (s := Service.setup (linked lib.entered) clock c) rfl fallback 1
    (x.done.map (·.command)) (m := .fresh driver c.deviceId) known rfl
  have managed := h.managed
  have served := h.replies
  refine ⟨?_, ?_, ?_, ?_, ?_⟩
  · rw [managed]
    exact entered
  · rw [managed]
    exact fun call hcall => (tame.calls call hcall).check known
  · rw [managed]
    exact tame.calls
  · intro t a ht
    refine replies (.enabled a) ?_ a rfl
    have mem : Reply.enabled a ∈ x.served.map (·.2) := List.mem_map_of_mem ht
    rw [served] at mem
    exact mem
  · rw [managed]
    exact tame.recorded

/-- the last device, and a library that reports every interface that a word can number: two fallback ports are taken -/
theorem daemon_confined_last :
    let c := { Config.Agent.standard with deviceId := 15, enable := ⟨2, .fallback⟩ }
    let lib : Vendor.ScriptedLibrary := { Vendor.ScriptedLibrary.fresh with topology := ⟨4294967295, 0, 0⟩ }
    let s := (Service.setup (linked Vendor.ScriptedLibrary.library.entered) (fun _ => .epoch) c).journaled
    let x := (Session.start s ⟨⟨lib, []⟩, []⟩).run s [.send 0 (.enable ⟨15, none⟩), .receive, .carryOut]
    c.validate = .ok () ∧ Confined c x
      ∧ x.managed.driver.state.entries = [.hostInit, .readConfig 15, .activatePon 15 0, .activatePon 15 1] := by
  intro c lib s x
  have valid : c.validate = .ok () := c.validate_eq_ok_iff.2 (by decide)
  exact ⟨valid, daemon_confined c valid Vendor.ScriptedLibrary.library lib (fun _ => .epoch) _, by rfl⟩

end Daemon

end LineTerminal
