/-
The scripted driver as a double of the vendor's library.

A library that answers from a script of raw numbers has a scripted driver for its double: the same numbers read as status
codes, and the same topology as a report (`ScriptedLibrary.script`). They stay doubles while both are asked the same and
while their scripts are changed alike, as long as the library reports no more interfaces than it knows
(`Scripted.Doubles`, `doubles_alike`, `Scripted.Doubles.change`).

`double_faithful`: a device with a checked configuration cannot tell the double from the linked driver over the library. In
a run of commands and changes of the script, everything that can be seen after each step is the same: the reply, the device
record, the counters, and the calls, one for one.
-/
import LineTerminal.Driver.Scripted
import LineTerminal.Proofs.Driver.Range
import LineTerminal.Service

namespace LineTerminal

open Vendor (LibraryCall RawTopology ScriptedLibrary maxOlts maxPonInterfaces linked forwarding)

variable {σ τ : Type}

/-! ## The double of a library -/

namespace Vendor

def RawTopology.info (t : RawTopology) : OltInfo := ⟨⟨t.ponPorts, t.macDevices, .ofRaw t.mode⟩, ""⟩

theorem infoOf_eq_ok {olt : OltId} {t : RawTopology} (size : t.ponPorts ≤ maxPonInterfaces) :
    infoOf olt t = .ok t.info :=
  if_neg (UInt32.not_lt.2 size)

namespace ScriptedLibrary

/-- the script of the double: numbers are read as codes -/
def script (l : ScriptedLibrary) : Script :=
  ⟨.ofRaw l.hostInit, .ofRaw l.readConfig, l.topology.info, l.once.map .ofRaw, .ofRaw l.activate⟩

/-- a change after which the library reports no more interfaces than it knows -/
def Change.Small : Change → Prop
  | .topology t => t.ponPorts ≤ maxPonInterfaces
  | _ => True

/-- the same change for the double -/
def Change.double : Change → Scripted.Change
  | .hostInit n => .hostInit (.ofRaw n)
  | .readConfig n => .readConfig (.ofRaw n)
  | .topology t => .info t.info
  | .activate n => .submit (.ofRaw n)
  | .activateOnce n => .submitOnce (.ofRaw n)
  | .clearCalls => .clearJournal

end ScriptedLibrary

end Vendor

/-- a scripted driver that is the double of a library -/
structure Scripted.Doubles (s : Scripted) (l : ScriptedLibrary) : Prop where
  script : s.script = l.script
  calls : s.journal.map Call.entry = l.calls
  size : l.topology.ponPorts ≤ maxPonInterfaces

theorem Scripted.Doubles.note {s : Scripted} {l : ScriptedLibrary} (h : s.Doubles l) (call : Call) :
    (s.note call).Doubles (l.note call.entry) where
  script := h.script
  calls := by simp only [Scripted.note, ScriptedLibrary.note, List.map_append, List.map_singleton, h.calls]
  size := h.size

/-- **A double answers like its library**, to any call that reaches the library. -/
theorem doubles_alike : Scripted.driver.Alike Scripted.Doubles (forwarding ScriptedLibrary.library) where
  hostInit ctx s l h := by
    refine ⟨?_, h.note (.hostInit _)⟩
    simp only [Scripted.driver, h.script]
    rfl
  readConfig olt s l h := by
    refine ⟨?_, h.note (.readConfig olt)⟩
    simp only [Scripted.driver, forwarding, ScriptedLibrary.library, h.script, Vendor.infoOf_eq_ok h.size,
      ScriptedLibrary.script, Vendor.resultOfRaw]
    cases (Errno.ofRaw l.readConfig).result <;> rfl
  submit olt operation s l h := by
    obtain ⟨hostInit, readConfig, topology, once, activate, entries⟩ := l
    obtain ⟨script, journal⟩ := s
    have noted := h.note (.submit olt operation)
    obtain ⟨rfl, -, size⟩ := h
    -- the queue of the double has the codes of the same numbers
    cases once with
    | nil => exact ⟨rfl, rfl, noted.calls, size⟩
    | cons n rest => exact ⟨rfl, rfl, noted.calls, size⟩

theorem Scripted.Doubles.change {s : Scripted} {l : ScriptedLibrary} (h : s.Doubles l) {c : ScriptedLibrary.Change}
    (small : c.Small) : (s.change c.double).Doubles (l.change c) := by
  obtain ⟨script, journal⟩ := s
  obtain ⟨rfl, calls, size⟩ := h
  cases c with
  | hostInit n => exact ⟨rfl, calls, size⟩
  | readConfig n => exact ⟨rfl, calls, size⟩
  | topology t => exact ⟨rfl, calls, small⟩
  | activate n => exact ⟨rfl, calls, size⟩
  | activateOnce n =>
    refine ⟨?_, calls, size⟩
    simp only [Scripted.change, ScriptedLibrary.Change.double, ScriptedLibrary.change, ScriptedLibrary.script,
      List.map_append, List.map_singleton]
  | clearCalls => exact ⟨rfl, rfl, size⟩

/-! ## Runs on a bench -/

/-- a driver with a script that can be changed between commands; its calls are seen as entries into the library -/
structure Bench (σ : Type) where
  driver : Driver σ
  change : σ → ScriptedLibrary.Change → σ
  entries : σ → List LibraryCall

namespace Bench

open Daemon (Command Reply perform perform_agree perform_alike perform_id)

/-- a step of a run on a bench -/
inductive Step where
  | change (c : ScriptedLibrary.Change)
  | command (c : Command)

/-- what is seen after a step; a change has no reply -/
structure Sight where
  reply : Option Reply
  device : Device
  counters : Counters
  entries : List LibraryCall

def look (b : Bench σ) (reply : Option Reply) (m : Managed σ) : Sight :=
  ⟨reply, m.device, m.counters, b.entries m.driver⟩

/-- what is seen after each step of a run; the first command is the `n`-th piece of work -/
def sights (b : Bench σ) (c : Config.Agent) (clock : Nat → Time.Timestamp) : Nat → List Step → Managed σ → List Sight
  | _, [], _ => []
  | n, .change ch :: steps, m =>
    let m := { m with driver := b.change m.driver ch }
    b.look none m :: b.sights c clock n steps m
  | n, .command command :: steps, m =>
    let w := perform (Service.setup b.driver clock c) (clock n) command m
    b.look (some w.value) w.managed :: b.sights c clock (n + 1) steps w.managed

variable {c : Config.Agent} {clock : Nat → Time.Timestamp}

/-- drivers that agree on what the library knows cannot be told apart -/
theorem sights_agree (b : Bench σ) {e : Driver σ} (h : b.driver.AgreeKnown e) (modest : Modest b.driver c.enable) (n : Nat)
    (steps : List Step) {m : Managed σ} (known : m.device.id < maxOlts) :
    b.sights c clock n steps m = { b with driver := e }.sights c clock n steps m := by
  induction steps generalizing n m with
  | nil => rfl
  | cons step steps ih =>
    cases step with
    | change ch =>
      simp only [sights]
      rw [ih n (m := { m with driver := b.change m.driver ch }) known]
      rfl
    | command command =>
      have first := perform_agree (s := Service.setup b.driver clock c) h modest (clock n) command known
      have later := ih (n + 1) (m := (perform (Service.setup b.driver clock c) (clock n) command m).managed)
        ((perform_id _ (clock n) command m).symm ▸ known)
      simp only [sights, later]
      rw [first]
      rfl

/-- nor can drivers that are alike, if changes keep them so -/
theorem sights_alike {R : σ → τ → Prop} {b : Bench σ} {b' : Bench τ} (h : b.driver.Alike R b'.driver)
    (change : ∀ ch : ScriptedLibrary.Change, ch.Small → ∀ s t, R s t → R (b.change s ch) (b'.change t ch))
    (entries : ∀ s t, R s t → b.entries s = b'.entries t) (n : Nat) {steps : List Step}
    (small : ∀ ch, .change ch ∈ steps → ch.Small) {m : Managed σ} {m' : Managed τ} (hm : m.Alike R m') :
    b.sights c clock n steps m = b'.sights c clock n steps m' := by
  have look : ∀ reply {m : Managed σ} {m' : Managed τ}, m.Alike R m' → b.look reply m = b'.look reply m' := by
    intro reply m m' hm
    simp only [Bench.look, hm.device, hm.counters, entries _ _ hm.driver]
  induction steps generalizing n m m' with
  | nil => rfl
  | cons step steps ih =>
    have rest : ∀ ch, .change ch ∈ steps → ch.Small := fun ch hch => small ch (List.mem_cons_of_mem _ hch)
    cases step with
    | change ch =>
      have changed := change ch (small ch List.mem_cons_self) _ _ hm.driver
      have next : Managed.Alike R { m with driver := b.change m.driver ch } { m' with driver := b'.change m'.driver ch } :=
        ⟨changed, hm.device, hm.counters⟩
      simp only [sights]
      rw [look none next, ih n rest next]
    | command command =>
      have next := perform_alike (s := Service.setup b.driver clock c) h (clock n) command hm
      simp only [sights]
      rw [look _ next.managed, ih (n + 1) rest next.managed, next.value]
      rfl

/-- the linked driver over a scripted library -/
def linkedLibrary : Bench ScriptedLibrary := ⟨linked ScriptedLibrary.library, ScriptedLibrary.change, (·.calls)⟩

/-- the scripted driver, to which the same is done in codes -/
def scriptedDouble : Bench Scripted := ⟨Scripted.driver, fun s ch => s.change ch.double, (·.journal.map Call.entry)⟩

/-- **The scripted driver is a faithful double.** For every valid configuration, every script of a library and every run
of commands and changes of the script, with reports of at most as many interfaces as the library knows: whatever is seen
after a step is the same with the linked driver and with the double. -/
theorem double_faithful (c : Config.Agent) (valid : c.validate = .ok ()) (clock : Nat → Time.Timestamp)
    (l : ScriptedLibrary) (unused : l.calls = []) (size : l.topology.ponPorts ≤ maxPonInterfaces) (steps : List Step)
    (small : ∀ ch, .change ch ∈ steps → ch.Small) :
    scriptedDouble.sights c clock 0 steps (.fresh (.fresh l.script) c.deviceId)
      = linkedLibrary.sights c clock 0 steps (.fresh l c.deviceId) := by
  obtain ⟨known, ⟨-, fallback⟩, -⟩ := c.validate_eq_ok_iff.1 valid
  have agree : linkedLibrary.sights c clock 0 steps (.fresh l c.deviceId)
      = { linkedLibrary with driver := forwarding ScriptedLibrary.library }.sights c clock 0 steps (.fresh l c.deviceId) :=
    linkedLibrary.sights_agree (Vendor.linked_agree ScriptedLibrary.library) (Vendor.modest_linked _ fallback) 0 steps
      known
  rw [agree]
  exact sights_alike doubles_alike (fun ch hch _ _ h => h.change hch) (fun _ _ h => h.calls) 0 small
    ⟨⟨rfl, unused.symm, size⟩, rfl, rfl⟩

/-- the last device, with as many fallback ports as there can be: one activation is out of range, and another answers a
number that is no code, as the second read does -/
theorem double_faithful_last :
    let c := { Config.Agent.standard with deviceId := 15, enable := ⟨128, .fatal⟩ }
    let l : ScriptedLibrary := { ScriptedLibrary.fresh with once := [-9, 77] }
    let steps : List Step :=
      [.change (.topology ⟨3, 4, 2⟩), .command (.enable ⟨15, none⟩), .command .deactivate, .change (.readConfig 77),
       .change .clearCalls, .command (.enable ⟨15, none⟩)]
    let seen := linkedLibrary.sights c (fun _ => .epoch) 0 steps (.fresh l 15)
    c.validate = .ok () ∧ l.calls = [] ∧ l.topology.ponPorts ≤ maxPonInterfaces
      ∧ (∀ ch, .change ch ∈ steps → ch.Small)
      ∧ scriptedDouble.sights c (fun _ => .epoch) 0 steps (.fresh (.fresh l.script) 15) = seen
      ∧ seen.map (·.entries.length) = [0, 5, 5, 5, 0, 2] := by
  intro c l steps seen
  have valid : c.validate = .ok () := c.validate_eq_ok_iff.2 (by decide)
  have size : l.topology.ponPorts ≤ maxPonInterfaces := by decide
  have small : ∀ ch, .change ch ∈ steps → ch.Small := by
    intro ch hch
    simp only [steps, List.mem_cons, Step.change.injEq, reduceCtorEq, List.not_mem_nil, false_or, or_false] at hch
    rcases hch with rfl | rfl | rfl
    · show (3 : UInt32) ≤ maxPonInterfaces
      decide
    · trivial
    · trivial
  exact ⟨valid, rfl, size, small, double_faithful c valid _ l rfl size steps small, by rfl⟩

end Bench

end LineTerminal
