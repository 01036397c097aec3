/-
The tokens that the printer writes are read back.

- `readText_writeText`: after its opening quote a written text is read up to its closing quote, whatever characters it
  holds: quotes, backslashes, the five controls with a letter, the other controls, and everything else.
- `readNumber_natural`, `readNumber_negative`: a written whole number is read back, provided that what follows it does
  not go on with the number (`AfterNumber`).
-/
import Mathlib.Tactic.Common
import LineTerminal.Json.Token
import LineTerminal.Json.Writer

namespace LineTerminal.Json

/-! ## Texts -/

theorem length_le_utf8ByteSize (cs : List Char) : cs.length ≤ (String.ofList cs).utf8ByteSize := by
  induction cs with
  | nil => exact Nat.zero_le _
  | cons c cs ih =>
    rw [← List.singleton_append, String.ofList_append, String.utf8ByteSize_append, List.length_append]
    have hc : 1 ≤ (String.ofList [c]).utf8ByteSize := by
      rw [← String.singleton_eq_ofList, String.utf8ByteSize_singleton]
      exact c.utf8Size_pos
    exact Nat.add_le_add hc ih

theorem hexValue_hexDigit (n : Nat) : hexValue (hexDigit n) = some (n % 16) := by
  have digits : ∀ k < 16, hexValue (Nat.digitChar k) = some k := by decide
  exact digits (n % 16) (Nat.mod_lt n (by decide))

/-- the escape of a control character without a letter of its own -/
theorem readHexEscape_control (c : Char) (rest : List Char) (control : c.toNat < 0x20) :
    readHexEscape ('0' :: '0' :: hexDigit (c.toNat / 16) :: hexDigit c.toNat :: rest) = .ok (c, rest) := by
  have size : ¬ (String.ofList ['0', '0', hexDigit (c.toNat / 16), hexDigit c.toNat]).utf8ByteSize < 4 :=
    Nat.not_lt.2 (length_le_utf8ByteSize ['0', '0', hexDigit (c.toNat / 16), hexDigit c.toNat])
  have zero : hexValue '0' = some 0 := by decide
  have scanned : scanHex ('0' :: '0' :: hexDigit (c.toNat / 16) :: hexDigit c.toNat :: rest)
      = .ok (c.toNat, rest) := by
    have value : ((0 * 16 + 0) * 16 + c.toNat / 16 % 16) * 16 + c.toNat % 16 = c.toNat := by omega
    simp only [scanHex, List.take_succ_cons, List.take_zero, size, ↓reduceIte, zero, hexValue_hexDigit, value]
  have low : ¬ (0xdc00 ≤ c.toNat ∧ c.toNat ≤ 0xdfff) := by omega
  have alone : c.toNat < 0xd800 ∨ 0xdfff < c.toNat := by omega
  simp only [readHexEscape, scanned, bind, Except.bind, low, alone, ↓reduceIte, Char.ofNat_toNat, pure, Except.pure]

/-- one written character is read in one step -/
theorem readTextFrom_escapeChar (acc : List Char) (fuel : Nat) (c : Char) (rest : List Char) :
    readTextFrom acc (fuel + 1) (escapeChar c ++ rest) = readTextFrom (c :: acc) fuel rest := by
  by_cases quote : c = '"'
  · subst quote; rfl
  by_cases backslash : c = '\\'
  · subst backslash; rfl
  by_cases backspace : c = '\x08'
  · subst backspace; rfl
  by_cases tab : c = '\t'
  · subst tab; rfl
  by_cases newline : c = '\n'
  · subst newline; rfl
  by_cases page : c = '\x0c'
  · subst page; rfl
  by_cases back : c = '\r'
  · subst back; rfl
  by_cases control : c.toNat < 0x20
  · simp only [escapeChar, quote, backslash, backspace, tab, newline, page, back, control, ↓reduceIte,
      List.cons_append, List.nil_append, readTextFrom, Char.reduceEq, readEscape, readHexEscape_control c rest control]
  · simp only [escapeChar, quote, backslash, backspace, tab, newline, page, back, control, ↓reduceIte,
      List.cons_append, List.nil_append, readTextFrom]

theorem readTextFrom_written (cs : List Char) (acc : List Char) (fuel : Nat) (rest : List Char)
    (enough : cs.length < fuel) :
    readTextFrom acc fuel (cs.flatMap escapeChar ++ '"' :: rest) = .ok (String.ofList (acc.reverse ++ cs), rest) := by
  induction cs generalizing acc fuel with
  | nil =>
    obtain ⟨fuel, rfl⟩ := Nat.exists_eq_add_one_of_ne_zero (Nat.ne_of_gt enough)
    simp only [List.flatMap_nil, List.nil_append, readTextFrom, ↓reduceIte, List.append_nil]
  | cons c cs ih =>
    obtain ⟨fuel, rfl⟩ := Nat.exists_eq_add_one_of_ne_zero (Nat.ne_of_gt (Nat.zero_lt_of_lt enough))
    rw [List.flatMap_cons, List.append_assoc, readTextFrom_escapeChar,
      ih (c :: acc) fuel (Nat.lt_of_succ_lt_succ enough), List.reverse_cons, List.append_assoc, List.singleton_append]

theorem length_le_flatMap_escapeChar (cs : List Char) : cs.length ≤ (cs.flatMap escapeChar).length := by
  induction cs with
  | nil => exact Nat.le_refl _
  | cons c cs ih =>
    have hc : 1 ≤ (escapeChar c).length := by
      unfold escapeChar
      split_ifs <;> simp
    rw [List.flatMap_cons, List.length_append, List.length_cons]
    omega

theorem writeText_append (s : String) (rest : List Char) :
    writeText s ++ rest = '"' :: (s.toList.flatMap escapeChar ++ '"' :: rest) := by
  simp only [writeText, List.cons_append, List.append_assoc, List.nil_append]

theorem readText_writeText (s : String) (rest : List Char) :
    readText (s.toList.flatMap escapeChar ++ '"' :: rest) = .ok (s, rest) := by
  have enough : s.toList.length < (s.toList.flatMap escapeChar ++ '"' :: rest).length + 1 := by
    have := length_le_flatMap_escapeChar s.toList
    rw [List.length_append]
    omega
  rw [readText, readTextFrom_written _ _ _ _ enough, List.reverse_nil, List.nil_append, String.ofList_toList]

/-! ## Whole numbers -/

/-- can a number go on with this character -/
def continuesNumber (c : Char) : Bool := c.isDigit || c == '.' || c == 'e' || c == 'E'

/-- what follows does not go on with a number -/
def AfterNumber (rest : List Char) : Prop := ∀ c ∈ rest.head?, continuesNumber c = false

theorem AfterNumber.nil : AfterNumber [] := by
  intro c hc
  cases hc

theorem AfterNumber.cons {c : Char} {rest : List Char} (h : continuesNumber c = false) : AfterNumber (c :: rest) := by
  intro d hd
  cases hd
  exact h

theorem AfterNumber.not_digit {rest : List Char} (h : AfterNumber rest) : ∀ c ∈ rest.head?, c.isDigit = false := by
  intro c hc
  have := h c hc
  simp only [continuesNumber, Bool.or_eq_false_iff] at this
  exact this.1.1.1

theorem splitDigits_append {ds rest : List Char} (digits : ∀ c ∈ ds, c.isDigit = true)
    (ends : ∀ c ∈ rest.head?, c.isDigit = false) : splitDigits (ds ++ rest) = (ds, rest) := by
  rw [splitDigits, List.takeWhile_append_of_pos digits, List.dropWhile_append_of_pos digits]
  cases rest with
  | nil => simp
  | cons c rest =>
    have hc : ¬ c.isDigit = true := by simp [ends c rfl]
    rw [List.takeWhile_cons_of_neg hc, List.dropWhile_cons_of_neg hc, List.append_nil]

theorem isDigit_of_mem_toDigits {n : Nat} : ∀ c ∈ Nat.toDigits 10 n, c.isDigit = true :=
  fun _ hc => Nat.isDigit_of_mem_toDigits (by decide) (by decide) hc

/-- the digits of a number begin with zero only for zero -/
theorem toDigits_eq_cons (n : Nat) : ∃ c ds, Nat.toDigits 10 n = c :: ds ∧ c.isDigit = true ∧ (c = '0' → n = 0) := by
  induction n using Nat.strongRecOn with
  | ind n ih =>
    by_cases small : n < 10
    · refine ⟨n.digitChar, [], Nat.toDigits_of_lt_base small, ?_, ?_⟩
      · rw [Nat.isDigit_digitChar, decide_eq_true small]
      · exact Nat.digitChar_eq_zero.1
    · obtain ⟨c, ds, digits, hc, zero⟩ := ih (n / 10) (by omega)
      refine ⟨c, ds ++ [(n % 10).digitChar], ?_, hc, fun h => ?_⟩
      · rw [Nat.toDigits_of_base_le (by decide) (Nat.not_lt.1 small), digits, List.cons_append]
      · have := zero h
        omega

theorem scanWhole_toDigits (ended : Fault) (n : Nat) {rest : List Char} (after : AfterNumber rest) :
    scanWhole ended (Nat.toDigits 10 n ++ rest) = .ok (Nat.toDigits 10 n, rest) := by
  by_cases hn : n = 0
  · subst hn
    cases rest with
    | nil => rfl
    | cons c rest => simp [scanWhole, Nat.toDigits_zero, after.not_digit c rfl]
  · obtain ⟨c, ds, digits, hc, zero⟩ := toDigits_eq_cons n
    have nonzero : c ≠ '0' := fun h => hn (zero h)
    have split : splitDigits (Nat.toDigits 10 n ++ rest) = (Nat.toDigits 10 n, rest) :=
      splitDigits_append isDigit_of_mem_toDigits after.not_digit
    rw [digits, List.cons_append] at split ⊢
    unfold scanWhole
    split
    · contradiction
    · rename_i heq
      exact absurd (List.cons.inj heq).1 nonzero
    · rename_i heq
      obtain ⟨rfl, rfl⟩ := List.cons.inj heq
      rw [hc, if_pos rfl, split]

theorem scanFraction_after (ended : Fault) {rest : List Char} (after : AfterNumber rest) :
    scanFraction ended rest = .ok ([], rest) := by
  unfold scanFraction
  split
  · have := after '.' rfl
    contradiction
  · rfl

theorem scanExponent_after (ended : Fault) {rest : List Char} (after : AfterNumber rest) :
    scanExponent ended rest = .ok (none, rest) := by
  cases rest with
  | nil => rfl
  | cons c rest =>
    have hc := after c rfl
    have other : ¬ (c = 'e' ∨ c = 'E') := by
      rintro (rfl | rfl) <;> contradiction
    simp only [scanExponent, other, ↓reduceIte]

theorem scanNumber_toDigits (ended : Fault) (n : Nat) {rest : List Char} (after : AfterNumber rest) :
    scanNumber ended (Nat.toDigits 10 n ++ rest) = .ok (⟨Nat.toDigits 10 n, [], none⟩, rest) := by
  simp only [scanNumber, scanWhole_toDigits ended n after, scanFraction_after ended after, scanExponent_after ended after,
    bind, Except.bind, pure, Except.pure]

/-- digits whose value fits are all taken into the significand -/
theorem significand_eq (ds : List Char) (n : Nat) (fits : Nat.ofDigitChars 10 ds n < UInt64.size) :
    significand n ds = (Nat.ofDigitChars 10 ds n, []) := by
  induction ds generalizing n with
  | nil => rfl
  | cons c ds ih =>
    have value : Nat.ofDigitChars 10 (c :: ds) n = Nat.ofDigitChars 10 ds (10 * n + (c.toNat - 48)) :=
      Nat.ofDigitChars_cons
    rw [value] at fits ⊢
    have next : 10 * n + (c.toNat - 48) < UInt64.size := by
      rw [Nat.ofDigitChars_eq_ofDigitChars_zero] at fits
      have := Nat.le_mul_of_pos_left (10 * n + (c.toNat - 48)) (Nat.pow_pos (n := ds.length) (show 0 < 10 by decide))
      omega
    rw [significand, if_pos next, ih _ fits]

theorem readNumber_toDigits (negative : Bool) {n : Nat} {rest : List Char} (fits : n < UInt64.size)
    (after : AfterNumber rest) :
    readNumber negative (Nat.toDigits 10 n ++ rest) = .ok (wholeNumber negative n, rest) := by
  have taken : significand 0 (Nat.toDigits 10 n) = (n, []) := by
    have := significand_eq (Nat.toDigits 10 n) 0 (by rwa [Nat.ofDigitChars_ten_toDigits])
    rwa [Nat.ofDigitChars_ten_toDigits] at this
  simp only [readNumber, scanNumber_toDigits _ n after, NumberText.value, taken, bind, Except.bind, pure, Except.pure,
    List.isEmpty_nil, Option.isNone_none, Bool.and_self, ↓reduceIte]

theorem readNumber_natural (n : UInt64) {rest : List Char} (after : AfterNumber rest) :
    readNumber false (Nat.toDigits 10 n.toNat ++ rest) = .ok (.natural n, rest) := by
  rw [readNumber_toDigits false n.toNat_lt after]
  simp [wholeNumber]

theorem readNumber_negative (n : Fin 0x8000000000000000) {rest : List Char} (after : AfterNumber rest) :
    readNumber true (Nat.toDigits 10 (n.val + 1) ++ rest) = .ok (.negative n, rest) := by
  have fits : n.val + 1 < UInt64.size := Nat.lt_of_le_of_lt n.isLt (by decide)
  have small : n.val + 1 - 1 < 0x8000000000000000 := n.isLt
  rw [readNumber_toDigits true fits after]
  simp [wholeNumber, n.isLt]

end LineTerminal.Json
