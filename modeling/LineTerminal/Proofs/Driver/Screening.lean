/-
Both builds of the driver check the ids of a call alike.

`Rejects` is the rule, told from the ids alone: a call about a terminal above 15 is rejected, and so is one about an interface
above 127; if both are out of range the terminal is named. The driver over the vendor's library and the one of a build without
it are `Screened` by that rule:
- they reject the same calls with the same error, and then the library is not touched;
- any other call is not supported by the build without the library, and is one entry into the library with the other.
The library may make an error of the same kind of its own. Then it has been entered, so that is no rejection.

`ids_screened`: so it is with the two calls that name ids, whatever the library answers.
-/
import LineTerminal.Proofs.Driver.Confined

namespace LineTerminal.Vendor

variable {σ τ α : Type}

/-! ## The rule -/

/-- why a call about a terminal, and about one of its interfaces if it names one, is rejected -/
inductive Rejects (olt : OltId) : Option PonId → String → Prop where
  | olt (pon : Option PonId) (unknown : 16 ≤ olt.raw.toNat) :
    Rejects olt pon ("OLT id " ++ toString olt.raw.toNat ++ " out of range (max 15)")
  | pon (pon : PonId) (known : olt.raw.toNat < 16) (unknown : 128 ≤ pon.raw.toNat) :
    Rejects olt (some pon) ("PON interface " ++ toString pon.raw.toNat ++ " out of range (max 127)")

theorem Rejects.unique {olt : OltId} {pon : Option PonId} {detail other : String} (h : Rejects olt pon detail)
    (g : Rejects olt pon other) : detail = other := by
  cases h with
  | olt _ unknown =>
    cases g with
    | olt => rfl
    | pon _ known => exact absurd unknown (Nat.not_le.2 known)
  | pon _ known unknown =>
    cases g with
    | olt _ unknown => exact absurd unknown (Nat.not_le.2 known)
    | pon => rfl

theorem rejects_iff (olt : OltId) (pon : Option PonId) :
    (∃ detail, Rejects olt pon detail) ↔ 16 ≤ olt.raw.toNat ∨ ∃ p, pon = some p ∧ 128 ≤ p.raw.toNat := by
  constructor
  · rintro ⟨detail, h⟩
    cases h with
    | olt _ unknown => exact .inl unknown
    | pon p known unknown => exact .inr ⟨p, rfl, unknown⟩
  · rintro (unknown | ⟨p, rfl, unknown⟩)
    · exact ⟨_, .olt pon unknown⟩
    · rcases Nat.lt_or_ge olt.raw.toNat 16 with known | unknown'
      · exact ⟨_, .pon p known unknown⟩
      · exact ⟨_, .olt _ unknown'⟩

/-! ## The checks -/

theorem bounded_text (kind number bound : String) :
    kind ++ number ++ " out of range (max " ++ bound ++ ")" = kind ++ number ++ (" out of range (max " ++ bound ++ ")") := by
  simp only [String.append_assoc]

theorem checkOlt_eq_error {olt : OltId} (unknown : 16 ≤ olt.raw.toNat) :
    checkOlt olt = .error (.invalidParameter ("OLT id " ++ toString olt.raw.toNat ++ " out of range (max 15)")) := by
  have above : olt.raw ≥ maxOlts := UInt32.le_iff_toNat_le.2 unknown
  have bound : " out of range (max " ++ toString (maxOlts.toNat - 1) ++ ")" = " out of range (max 15)" := by decide
  rw [checkOlt, if_pos above, bounded_text, bound, ObjectId.text]

theorem checkPon_eq_error {pon : PonId} (unknown : 128 ≤ pon.raw.toNat) :
    checkPon pon = .error (.invalidParameter ("PON interface " ++ toString pon.raw.toNat ++ " out of range (max 127)")) := by
  have above : pon.raw ≥ maxPonInterfaces := UInt32.le_iff_toNat_le.2 unknown
  have bound : " out of range (max " ++ toString (maxPonInterfaces.toNat - 1) ++ ")" = " out of range (max 127)" := by decide
  rw [checkPon, if_pos above, bounded_text, bound, ObjectId.text]

/-- a check that keeps to the rule: it names the reason, or there is none -/
inductive Keeps (olt : OltId) (pon : Option PonId) : Except DriverError Unit → Prop where
  | rejected (detail : String) (reason : Rejects olt pon detail) : Keeps olt pon (.error (.invalidParameter detail))
  | passed (none : ∀ detail, ¬ Rejects olt pon detail) : Keeps olt pon (.ok ())

theorem checkOlt_keeps (olt : OltId) : Keeps olt none (checkOlt olt) := by
  rcases Nat.lt_or_ge olt.raw.toNat 16 with known | unknown
  · rw [checkOlt_eq_ok (UInt32.lt_iff_toNat_lt.2 known)]
    refine .passed fun detail reason => ?_
    cases reason with
    | olt _ unknown => exact absurd unknown (Nat.not_le.2 known)
  · rw [checkOlt_eq_error unknown]
    exact .rejected _ (.olt none unknown)

/-- the terminal is checked before the interface -/
theorem checkSubmit_keeps (olt : OltId) (operation : Operation) :
    Keeps olt (some operation.target) (checkSubmit olt operation) := by
  rcases Nat.lt_or_ge olt.raw.toNat 16 with known | unknown
  · have checked : checkSubmit olt operation = checkPon operation.target := by
      rw [checkSubmit, checkOlt_eq_ok (UInt32.lt_iff_toNat_lt.2 known)]
    rw [checked]
    rcases Nat.lt_or_ge operation.target.raw.toNat 128 with small | large
    · rw [checkPon_eq_ok (UInt32.lt_iff_toNat_lt.2 small)]
      refine .passed fun detail reason => ?_
      cases reason with
      | olt _ unknown => exact absurd unknown (Nat.not_le.2 known)
      | pon _ _ large => exact absurd large (Nat.not_le.2 small)
    · rw [checkPon_eq_error large]
      exact .rejected _ (.pon operation.target known large)
  · rw [checkSubmit, checkOlt_eq_error unknown]
    exact .rejected _ (.olt _ unknown)

/-! ## The two builds -/

/-- what the two builds make of a call about these ids, which would be this entry into the library: `w` is the answer with the
library, from the state `s`, and `u` the one without it, from the state `t` -/
structure Screened (olt : OltId) (pon : Option PonId) (entry : LibraryCall) (s : Entered σ) (t : τ)
    (w : Answer (Entered σ) α) (u : Answer τ α) : Prop where
  /-- the ids decide, and nothing else -/
  rejected : ∀ detail, u.outcome = .error (.invalidParameter detail) ↔ Rejects olt pon detail
  /-- the very same error, and no entry into the library -/
  alike : ∀ detail, u.outcome = .error (.invalidParameter detail) ↔
    w.outcome = .error (.invalidParameter detail) ∧ w.state.entries = s.entries
  /-- nothing at all is touched -/
  untouched : ∀ detail, u.outcome = .error (.invalidParameter detail) → w.state = s ∧ u.state = t ∧ w.lines = u.lines
  /-- any other call -/
  passed : (∀ detail, u.outcome ≠ .error (.invalidParameter detail)) →
    u.outcome = .error (.notSupported "BAL host library not linked") ∧ w.state.entries = s.entries ++ [entry]
  /-- which calls are rejected -/
  range : (∃ detail, u.outcome = .error (.invalidParameter detail)) ↔
    16 ≤ olt.raw.toNat ∨ ∃ p, pon = some p ∧ 128 ≤ p.raw.toNat

variable {olt : OltId} {pon : Option PonId} {entry : LibraryCall} {s : Entered σ} {t : τ}

theorem screened_rejected {detail : String} (reason : Rejects olt pon detail) :
    Screened olt pon entry s t (⟨.error (.invalidParameter detail), s, []⟩ : Answer (Entered σ) α)
      ⟨.error (.invalidParameter detail), t, []⟩ := by
  have rejected (other : String) :
      (Except.error (.invalidParameter detail) : Except DriverError α) = .error (.invalidParameter other) ↔
        Rejects olt pon other := by
    simp only [Except.error.injEq, DriverError.invalidParameter.injEq]
    exact ⟨fun same => same ▸ reason, reason.unique⟩
  refine ⟨rejected, fun other => ⟨fun h => ⟨h, rfl⟩, And.left⟩, fun _ _ => ⟨rfl, rfl, rfl⟩, ?_, ?_⟩
  · exact fun other => absurd rfl (other detail)
  · rw [← rejects_iff]
    exact exists_congr rejected

theorem screened_passed (none : ∀ detail, ¬ Rejects olt pon detail) {w : Answer (Entered σ) α} {u : Answer τ α}
    (unsupported : u.outcome = .error notLinked) (entered : w.state.entries = s.entries ++ [entry]) :
    Screened olt pon entry s t w u := by
  have other (detail : String) : u.outcome ≠ .error (.invalidParameter detail) := by
    rw [unsupported]
    exact nofun
  have once : w.state.entries ≠ s.entries := by
    rw [entered]
    simp
  refine ⟨fun detail => iff_of_false (other detail) (none detail), fun detail => ?_, ?_, fun _ => ⟨unsupported, entered⟩, ?_⟩
  · exact iff_of_false (other detail) fun h => once h.2
  · exact fun detail h => absurd h (other detail)
  · rw [← rejects_iff]
    exact exists_congr fun detail => iff_of_false (other detail) (none detail)

/-- **The ids of a call are checked alike with the library and without.** For every terminal, every operation and every
library, whatever it has been asked before and whatever it answers. -/
theorem ids_screened (lib : Library σ) (s : Entered σ) (t : τ) (olt : OltId) :
    Screened olt none (.readConfig olt.raw) s t ((linked lib.entered).readConfig olt s) (unlinked.readConfig olt t) ∧
    ∀ operation : Operation, Screened olt (some operation.target) (.activatePon olt.raw operation.target.raw) s t
      ((linked lib.entered).submit olt operation s) (unlinked.submit olt operation t) := by
  refine ⟨?_, fun operation => ?_⟩
  · have keeps := checkOlt_keeps olt
    simp only [linked, unlinked]
    generalize checkOlt olt = check at keeps ⊢
    cases keeps with
    | rejected detail reason => exact screened_rejected reason
    | passed none => exact screened_passed none rfl rfl
  · have keeps := checkSubmit_keeps olt operation
    simp only [linked, unlinked]
    generalize checkSubmit olt operation = check at keeps ⊢
    cases keeps with
    | rejected detail reason => exact screened_rejected reason
    | passed none => exact screened_passed none rfl rfl

/-- the library's own error of that kind comes after an entry -/
example :
    let lib : ScriptedLibrary := { ScriptedLibrary.fresh with readConfig := -9 }
    let a := (linked ScriptedLibrary.library.entered).readConfig ⟨15⟩ ⟨lib, []⟩
    a.outcome = .error (.invalidParameter "BAL returned BCM_ERR_RANGE") ∧ a.state.entries = [.readConfig 15] :=
  ⟨rfl, rfl⟩

end LineTerminal.Vendor
