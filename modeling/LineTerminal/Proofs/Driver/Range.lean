/-
Ids within the range of the vendor's library.

A driver over the library checks the ids of a call first. `forwarding` is that driver without the checks; the two differ
only on terminals and interfaces that the library does not know (`linked_agree`). An enable of a device that the library
knows never uses any other id: it activates as many interfaces as the driver reports or the settings assume, and neither is
more than the library knows (`Modest`, `modest_linked`).

`enable_agree`, `perform_agree`: drivers that agree on what the library knows do the same in every enable and in every
command, so with checked settings no check of an id is ever missed.
-/
import Mathlib.Data.List.Basic
import LineTerminal.Driver.Library
import LineTerminal.Proofs.Device.Replay
import LineTerminal.Proofs.Enable.Traffic

namespace LineTerminal

open Vendor (Library RawTopology LibraryCall maxOlts maxPonInterfaces)

variable {σ : Type}

/-- the entry into the library that hands a call on -/
def Call.entry : Call → LibraryCall
  | .hostInit _ => .hostInit
  | .readConfig olt => .readConfig olt.raw
  | .submit olt operation => .activatePon olt.raw operation.target.raw

/-- two drivers that do the same about all terminals and interfaces that the library knows -/
structure Driver.AgreeKnown (d e : Driver σ) : Prop where
  hostInit : d.hostInit = e.hostInit
  readConfig : ∀ olt : OltId, olt.raw < maxOlts → d.readConfig olt = e.readConfig olt
  submit : ∀ (olt : OltId) (operation : Operation), olt.raw < maxOlts → operation.target.raw < maxPonInterfaces →
    d.submit olt operation = e.submit olt operation

/-- neither the driver nor the settings have more interfaces than the library knows -/
structure Modest (d : Driver σ) (settings : EnableSettings) : Prop where
  reported : ∀ olt s info, (d.readConfig olt s).outcome = .ok info → info.ponPorts ≤ maxPonInterfaces
  fallback : settings.fallbackPonPorts ≤ maxPonInterfaces

theorem Driver.AgreeKnown.journaled {d e : Driver σ} (h : d.AgreeKnown e) : d.journaled.AgreeKnown e.journaled where
  hostInit := by simp only [Driver.journaled, h.hostInit]
  readConfig olt known := by simp only [Driver.journaled, h.readConfig olt known]
  submit olt operation known target := by simp only [Driver.journaled, h.submit olt operation known target]

theorem Modest.journaled {d : Driver σ} {settings : EnableSettings} (h : Modest d settings) :
    Modest d.journaled settings :=
  ⟨fun olt s => h.reported olt s.state, h.fallback⟩

/-! ## The driver over the library -/

namespace Vendor

/-- the driver over the library, without the checks of the ids -/
def forwarding (lib : Library σ) : Driver σ where
  hostInit := (linked lib).hostInit
  readConfig olt s :=
    let r := lib.readConfig olt.raw s
    ⟨(resultOfRaw r.1).bind (fun _ => infoOf olt r.2.1), r.2.2, []⟩
  submit olt operation s :=
    let r := lib.activatePon olt.raw operation.target.raw s
    ⟨resultOfRaw r.1, r.2, [submitLine olt operation]⟩

theorem checkOlt_eq_ok {olt : OltId} (known : olt.raw < maxOlts) : checkOlt olt = .ok () :=
  if_neg (UInt32.not_le.2 known)

theorem checkPon_eq_ok {pon : PonId} (known : pon.raw < maxPonInterfaces) : checkPon pon = .ok () :=
  if_neg (UInt32.not_le.2 known)

theorem checkSubmit_eq_ok {olt : OltId} {operation : Operation} (known : olt.raw < maxOlts)
    (target : operation.target.raw < maxPonInterfaces) : checkSubmit olt operation = .ok () := by
  simp only [checkSubmit, checkOlt_eq_ok known, checkPon_eq_ok target]

/-- the checks refuse nothing that the library knows -/
theorem linked_agree (lib : Library σ) : (linked lib).AgreeKnown (forwarding lib) where
  hostInit := rfl
  readConfig olt known := by simp only [linked, forwarding, checkOlt_eq_ok known]
  submit olt operation known target := by simp only [linked, forwarding, checkSubmit_eq_ok known target]

/-- a report of more interfaces than the library knows is an error -/
theorem ponPorts_le_of_infoOf {olt : OltId} {t : RawTopology} {info : OltInfo} (h : infoOf olt t = .ok info) :
    info.ponPorts ≤ maxPonInterfaces := by
  unfold infoOf at h
  split at h
  · cases h
  · rename_i size
    cases h
    exact UInt32.not_lt.1 size

/-- whatever the library reports -/
theorem modest_linked (lib : Library σ) {settings : EnableSettings} (fallback : settings.fallbackPonPorts ≤ maxPonInterfaces) :
    Modest (linked lib) settings where
  reported olt s info h := by
    simp only [linked] at h
    split at h
    · cases h
    · simp only [Except.bind] at h
      split at h
      · cases h
      · exact ponPorts_le_of_infoOf h
  fallback := fallback

end Vendor

/-! ## One enable -/

namespace Enable

variable {d e : Driver σ} {settings : EnableSettings}

/-- interfaces that are numbered from zero upwards have no number above their count -/
theorem raw_lt_of_numbered {pons : List PonId} {n : UInt32} (order : pons.map (·.raw.toNat) = List.range n.toNat)
    {pon : PonId} (h : pon ∈ pons) : pon.raw < n := by
  have mem : pon.raw.toNat ∈ pons.map (·.raw.toNat) := List.mem_map_of_mem h
  rw [order, List.mem_range] at mem
  exact UInt32.lt_iff_toNat_lt.2 mem

/-- no enable finds more ports than the library knows -/
theorem Attempts.le (h : Modest d settings) {olt : OltId} {s : σ} {n : UInt32}
    (count : Attempts settings (d.readConfig olt s).outcome n) : n ≤ maxPonInterfaces := by
  generalize read : (d.readConfig olt s).outcome = answer at count
  cases count with
  | reported info => exact h.reported olt s info read
  | notConnected => exact h.fallback
  | tolerated e policy => exact h.fallback

theorem activatePorts_agree (h : d.AgreeKnown e) (now : Time.Timestamp) (request : Request) {olt : OltId}
    (known : olt.raw < maxOlts) {count : UInt32} (size : count ≤ maxPonInterfaces) (m : Managed σ) :
    activatePorts d now request olt count m = activatePorts e now request olt count m := by
  refine List.foldl_ext _ _ _ fun w pon hpon => ?_
  have target : pon.raw < maxPonInterfaces := UInt32.lt_of_lt_of_le (raw_lt_of_numbered (interfaces_numbers count) hpon) size
  simp only [activatePort, h.submit olt (.activatePon pon) known target]

theorem discoverAndAttempt_agree (h : d.AgreeKnown e) (modest : Modest d settings) (now : Time.Timestamp)
    (request : Request) {m : Managed σ} (known : m.device.id < maxOlts) :
    discoverAndAttempt d settings now request m = discoverAndAttempt e settings now request m := by
  have read := h.readConfig m.device.olt known
  simp only [discoverAndAttempt, ← read]
  split
  · rfl
  · rename_i found hfound
    have size : found.count ≤ maxPonInterfaces := (attempts_of_discover hfound).le modest
    have same : m.device.olt.raw < maxOlts := known
    simp only [attempt, activatePorts_agree h now request same size]

end Enable

/-- **Drivers that agree on what the library knows give the same enables** of a device that it knows. -/
theorem enable_agree {d e : Driver σ} {settings : EnableSettings} (h : d.AgreeKnown e) (modest : Modest d settings)
    (now : Time.Timestamp) (request : Enable.Request) {m : Managed σ} (known : m.device.id < maxOlts) :
    enable d settings now request m = enable e settings now request m := by
  simp only [enable, Enable.bringUp, h.hostInit]
  split
  · split
    · rfl
    · have later := Enable.discoverAndAttempt_agree h modest now request
        (m := ⟨(e.hostInit request.context m.driver).state, m.device, m.counters.countAttempt⟩) known
      simp only [later]
  · rfl

namespace Daemon

variable {s : Setup σ} {e : Driver σ}

theorem perform_agree (h : s.driver.AgreeKnown e) (modest : Modest s.driver s.settings) (now : Time.Timestamp)
    (command : Command) {m : Managed σ} (known : m.device.id < maxOlts) :
    perform s now command m = perform (s.over e) now command m := by
  cases command with
  | enable request => simp only [perform, Setup.over, enable_agree h modest now request known]
  | status => rfl
  | activate => rfl
  | deactivate => rfl
  | shutdown => rfl

theorem perform_id (s : Setup σ) (now : Time.Timestamp) (command : Command) (m : Managed σ) :
    (perform s now command m).managed.device.id = m.device.id :=
  (perform_device s now command m).2.2

theorem performAll_agree (h : s.driver.AgreeKnown e) (modest : Modest s.driver s.settings) (n : Nat)
    (commands : List Command) {m : Managed σ} (known : m.device.id < maxOlts) :
    performAll s n commands m = performAll (s.over e) n commands m := by
  induction commands generalizing n m with
  | nil => rfl
  | cons command commands ih =>
    have first := perform_agree h modest (s.clock n) command known
    have later := ih (n + 1) ((perform_id s (s.clock n) command m).symm ▸ known)
    simp only [performAll, later]
    rw [first]
    rfl

end Daemon

end LineTerminal
