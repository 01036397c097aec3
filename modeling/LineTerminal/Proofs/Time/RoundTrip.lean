/-
The text of a point in time is read as this point in time.

- `number_digits`: digits that fill the width, or that nothing continues, are read as their value.
- `fraction_writeFraction`: a fraction of a second comes back to the nanosecond, whether it takes 0, 3, 6 or 9 digits.
- `Timestamp.read_render`: a point in time in the years 0 to 9999 is read back, a leap second included. Outside these
  years the text has a sign and the reader takes another path.
-/
import Mathlib.Algebra.Ring.Nat
import Mathlib.Tactic.Common
import LineTerminal.Time.Reader

namespace LineTerminal.Time

/-! ## Digits -/

theorem isBlank_of_isDigit {c : Char} (digit : c.isDigit = true) : Text.isBlank c = false := by
  have zero : '0'.toNat = 48 := rfl
  have nine : '9'.toNat = 57 := rfl
  rw [Char.isDigit_iff_toNat, zero, nine] at digit
  simp [Text.isBlank]
  omega

theorem trim_cons {c : Char} (cs : List Char) (h : Text.isBlank c = false) : trim (c :: cs) = c :: cs :=
  List.dropWhile_cons_of_neg (by simp [h])

theorem isDigit_of_mem_padded (width n : Nat) : ∀ c ∈ padded width n, c.isDigit = true := by
  intro c hc
  rcases List.mem_append.1 hc with h | h
  · rw [List.eq_of_mem_replicate h]
    rfl
  · exact Nat.isDigit_of_mem_toDigits (by decide) (by decide) h

theorem ofDigitChars_padded (width n : Nat) : Nat.ofDigitChars 10 (padded width n) 0 = n := by
  rw [padded, Nat.ofDigitChars_append, Nat.ofDigitChars_replicate_zero, Nat.mul_zero, Nat.ofDigitChars_ten_toDigits]

/-- a number that is not too large fills the width -/
theorem length_padded {width n : Nat} (positive : 0 < width) (fits : n < 10 ^ width) :
    (padded width n).length = width := by
  have short : (Nat.toDigits 10 n).length ≤ width := (Nat.length_toDigits_le_iff (by decide) positive).2 fits
  rw [padded, List.length_append, List.length_replicate]
  omega

theorem padded_eq_cons (width n : Nat) : ∃ c cs, padded width n = c :: cs ∧ c.isDigit = true := by
  cases digits : padded width n with
  | nil =>
    have none : Nat.toDigits 10 n = [] := (List.append_eq_nil_iff.1 digits).2
    exact absurd none Nat.toDigits_ne_nil
  | cons c cs =>
    refine ⟨c, cs, rfl, isDigit_of_mem_padded width n c ?_⟩
    rw [digits]
    exact List.mem_cons_self ..

/-- digits that fill the width, or that nothing continues, are read as their value -/
theorem number_digits (width : Nat) {ds : List Char} (rest : List Char) (some' : ds ≠ []) (digits : ∀ c ∈ ds, c.isDigit = true)
    (fills : ds.length = width ∨ ds.length ≤ width ∧ ∀ c ∈ rest.head?, c.isDigit = false)
    (fits : Nat.ofDigitChars 10 ds 0 ≤ maxNumber) :
    number (some width) (ds ++ rest) = .ok (Nat.ofDigitChars 10 ds 0, rest) := by
  have taken : ((ds ++ rest).takeWhile Char.isDigit).take width = ds := by
    rw [List.takeWhile_append_of_pos digits]
    rcases fills with exactly | ⟨short, ends⟩
    · rw [← exactly, List.take_left]
    · have nothing : rest.takeWhile Char.isDigit = [] := by
        cases rest with
        | nil => rfl
        | cons c rest => exact List.takeWhile_cons_of_neg (by simp [ends c rfl])
      rw [nothing, List.append_nil, List.take_of_length_le short]
  obtain ⟨c, cs, rfl⟩ := List.exists_cons_of_ne_nil some'
  have hc : c.isDigit = true := digits c (List.mem_cons_self ..)
  have value : (c :: cs).foldl (fun n c => 10 * n + (c.toNat - 48)) 0 = Nat.ofDigitChars 10 (c :: cs) 0 := rfl
  have dropped : (c :: cs ++ rest).drop (c :: cs).length = rest := List.drop_left
  rw [List.cons_append] at taken dropped ⊢
  simp only [number, hc, Bool.not_true, Bool.false_eq_true, ↓reduceIte, taken, value, Nat.not_lt.2 fits, dropped]

theorem number_padded (width : Nat) {n : Nat} (rest : List Char) (positive : 0 < width) (fits : n < 10 ^ width)
    (small : n ≤ maxNumber) : number (some width) (padded width n ++ rest) = .ok (n, rest) := by
  have nonempty : padded width n ≠ [] := by
    obtain ⟨c, cs, digits, -⟩ := padded_eq_cons width n
    simp [digits]
  have read := number_digits width rest nonempty (isDigit_of_mem_padded width n)
    (.inl (length_padded positive fits)) (by rwa [ofDigitChars_padded])
  rwa [ofDigitChars_padded] at read

/-! ## The parts of a text -/

theorem trim_padded (width n : Nat) (rest : List Char) : trim (padded width n ++ rest) = padded width n ++ rest := by
  obtain ⟨c, cs, digits, digit⟩ := padded_eq_cons width n
  rw [digits, List.cons_append, trim_cons _ (isBlank_of_isDigit digit)]

theorem bounded_padded (low high : Nat) {n : Nat} (rest : List Char) (bounds : low ≤ n ∧ n ≤ high) (two : n < 100) :
    bounded low high (padded 2 n ++ rest) = .ok (n, rest) := by
  have small : n ≤ maxNumber := Nat.le_of_lt (Nat.lt_of_lt_of_le two (by decide))
  have read := number_padded 2 rest (by decide) two small
  simp only [bounded, trim_padded, read, bind, Except.bind, bounds, and_self, ↓reduceIte, pure, Except.pure]

theorem separator_cons {c : Char} (rest : List Char) (h : Text.isBlank c = false) :
    separator c (c :: rest) = .ok rest := by
  simp only [separator, trim_cons rest h, ↓reduceIte]

theorem year_writeYear {y : Int} (rest : List Char) (common : 0 ≤ y ∧ y ≤ 9999) :
    year (writeYear y ++ rest) = .ok (y, rest) := by
  have four : y.toNat < 10 ^ 4 := by omega
  have small : y.toNat ≤ maxNumber := Nat.le_of_lt (Nat.lt_of_lt_of_le four (by decide))
  have read := number_padded 4 rest (by decide) four small
  have range : -0x80000000 ≤ y ∧ y < 0x80000000 := by omega
  obtain ⟨c, cs, digits, digit⟩ := padded_eq_cons 4 y.toNat
  simp only [year, writeYear, common, and_self, ↓reduceIte, trim_padded]
  rw [digits, List.cons_append] at read ⊢
  split
  · rename_i heq
    obtain ⟨rfl, -⟩ := List.cons.inj heq
    contradiction
  · rename_i heq
    obtain ⟨rfl, -⟩ := List.cons.inj heq
    contradiction
  · simp only [read, Except.map, bind, Except.bind, Int.toNat_of_nonneg common.1, range, and_self, ↓reduceIte, pure,
      Except.pure]

/-- `groups` digits of a fraction stand for this many nanoseconds -/
theorem fraction_padded {digits n : Nat} {rest : List Char} (positive : 0 < digits) (most : digits ≤ 9)
    (fits : n < 10 ^ digits) (ends : ∀ c ∈ rest.head?, c.isDigit = false) :
    fraction ('.' :: (padded digits n ++ rest)) = .ok (n * 10 ^ (9 - digits), rest) := by
  have small : n ≤ maxNumber := by
    have := Nat.pow_le_pow_right (show 0 < 10 by decide) most
    have : 10 ^ 9 ≤ maxNumber := by decide
    omega
  have length := length_padded positive fits
  have nonempty : padded digits n ≠ [] := by
    intro h
    rw [h] at length
    exact absurd length (Nat.ne_of_lt positive)
  have read := number_digits 9 rest nonempty (isDigit_of_mem_padded digits n)
    (.inr ⟨by omega, ends⟩) (by rwa [ofDigitChars_padded])
  rw [ofDigitChars_padded] at read
  have left : rest.dropWhile Char.isDigit = rest := by
    cases rest with
    | nil => rfl
    | cons c rest => exact List.dropWhile_cons_of_neg (by simp [ends c rfl])
  have counted : (padded digits n ++ rest).length - rest.length = digits := by
    rw [List.length_append, length]
    omega
  simp only [fraction, read, bind, Except.bind, counted, left, pure, Except.pure]
  rfl

theorem fraction_writeFraction {nano : Nat} (fits : nano < 1000000000) :
    fraction (writeFraction nano ++ ['Z']) = .ok (nano, ['Z']) := by
  have ends : ∀ c ∈ ['Z'].head?, c.isDigit = false := by
    intro c hc
    cases hc
    rfl
  unfold writeFraction
  split_ifs with none millis micros
  · subst none
    rfl
  · rw [List.cons_append, fraction_padded (by decide) (by decide) (by omega) ends]
    congr 2
    omega
  · rw [List.cons_append, fraction_padded (by decide) (by decide) (by omega) ends]
    congr 2
    omega
  · rw [List.cons_append, fraction_padded (by decide) (by decide) (by omega) ends]
    congr 2
    omega

theorem offset_utc : offset ['Z'] = .ok (0, []) := rfl

/-! ## Points in time -/

theorem daysInMonth_le (year : Int) (month : Nat) : daysInMonth year month ≤ 31 := by
  unfold daysInMonth
  split_ifs <;> decide

theorem Date.bounds (d : Date) : (1 ≤ d.month ∧ d.month ≤ 12) ∧ 1 ≤ d.day ∧ d.day ≤ 31 := by
  have valid := d.valid
  simp only [dateExists, Bool.and_eq_true, decide_eq_true_eq] at valid
  obtain ⟨⟨⟨⟨-, month⟩, month'⟩, day⟩, day'⟩ := valid
  exact ⟨⟨month, month'⟩, day, Nat.le_trans day' (daysInMonth_le _ _)⟩

theorem Date.of?_self (d : Date) : Date.of? d.year d.month d.day = some d := by
  rw [Date.of?, dif_pos d.valid]

theorem toUtc_zero (d : Date) {hour minute : Nat} (h : hour < 24) (m : minute < 60) :
    toUtc d hour minute 0 = some (d, hour, minute) := by
  have early : ¬ ((hour * 60 + minute : Nat) - 0 : Int) < 0 := by omega
  have late : ¬ (1440 : Int) ≤ (hour * 60 + minute : Nat) - 0 := by omega
  have rest : (((hour * 60 + minute : Nat) - 0 : Int) % 1440).toNat = hour * 60 + minute := by omega
  have hours : (hour * 60 + minute) / 60 = hour := by omega
  have minutes : (hour * 60 + minute) % 60 = minute := by omega
  simp only [toUtc, early, late, ↓reduceIte, rest, hours, minutes, Option.map_some]

theorem assemble_self (t : Timestamp) :
    assemble t.date.year t.date.month t.date.day t.hour t.minute t.second t.nano 0 = .ok t := by
  obtain ⟨hour, minute, -, -⟩ := t.valid
  have near : ¬ ((0 : Int) ≤ -1440 ∨ (1440 : Int) ≤ 0) := by decide
  simp only [assemble, Date.of?_self, near, ↓reduceIte, toUtc_zero t.date hour minute, t.valid, and_self, ↓reduceDIte]

/-- the text of a point in time in the years 0 to 9999 is read as this point in time -/
theorem Timestamp.read_render (t : Timestamp) (common : 0 ≤ t.date.year ∧ t.date.year ≤ 9999) :
    Timestamp.read t.render = .ok t := by
  obtain ⟨month, day⟩ := t.date.bounds
  obtain ⟨hour, minute, second, nano⟩ := t.valid
  have dash : Text.isBlank '-' = false := rfl
  have colon : Text.isBlank ':' = false := rfl
  have betweenT (cs : List Char) : betweenDateAndTime ('T' :: cs) = .ok cs := rfl
  simp only [Timestamp.read, Timestamp.render, String.toList_ofList, Timestamp.write, Date.write, List.append_assoc,
    List.cons_append, year_writeYear _ common, bind, Except.bind, separator_cons _ dash, separator_cons _ colon,
    bounded_padded 1 12 _ month (by omega), bounded_padded 1 31 _ day (by omega), betweenT,
    bounded_padded 0 23 _ ⟨Nat.zero_le _, Nat.le_of_lt_succ hour⟩ (by omega),
    bounded_padded 0 59 _ ⟨Nat.zero_le _, Nat.le_of_lt_succ minute⟩ (by omega),
    bounded_padded 0 60 _ ⟨Nat.zero_le _, second⟩ (by omega),
    fraction_writeFraction nano, offset_utc]
  exact assemble_self t

end LineTerminal.Time
