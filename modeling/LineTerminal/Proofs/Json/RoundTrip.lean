/-
The reader gives back what the printer wrote.

- `readValue_write`: the text of a value is read as this value, whatever follows it that does not go on with a number, as
  long as the value nests less deep than the reader goes. The value holds no floating point number, and the names of each
  of its objects ascend (`Kept`), as they do in every object that is built from members (`kept_ofMembers`).
- `read_render`: the text of a value that nests at most 127 deep is read as this value.
- `render_inj`: so two such values never have the same text.

The reader looks at no more values than there are characters, so the length of the text is enough for its steps.
-/
import LineTerminal.Json.Reader
import LineTerminal.Proofs.Json.Tokens

namespace LineTerminal.Json

/-! ## Values that come back -/

mutual

/-- how deep a value nests; what holds nothing does not nest -/
def nesting : Json → Nat
  | .array items => nestingItems items + 1
  | .object members => nestingMembers members + 1
  | _ => 0

def nestingItems : List Json → Nat
  | [] => 0
  | v :: rest => max (nesting v) (nestingItems rest)

def nestingMembers : List (String × Json) → Nat
  | [] => 0
  | (_, v) :: rest => max (nesting v) (nestingMembers rest)

end

mutual

/-- do a value and all values inside it pass a test -/
def all (test : Json → Bool) : Json → Bool
  | .array items => test (.array items) && allItems test items
  | .object members => test (.object members) && allMembers test members
  | v => test v

def allItems (test : Json → Bool) : List Json → Bool
  | [] => true
  | v :: rest => all test v && allItems test rest

def allMembers (test : Json → Bool) : List (String × Json) → Bool
  | [] => true
  | (_, v) :: rest => all test v && allMembers test rest

end

/-- is a value anything but a floating point number -/
def isExact : Json → Bool
  | .number (.double _) => false
  | _ => true

/-- the names of the members ascend, so that none comes twice -/
def Ascending (members : List (String × Json)) : Prop := members.Pairwise (fun a b => a.1 < b.1)

instance (members : List (String × Json)) : Decidable (Ascending members) :=
  inferInstanceAs (Decidable (members.Pairwise _))

/-- is a value anything but an object out of order -/
def isOrdered : Json → Bool
  | .object members => decide (Ascending members)
  | _ => true

/-- no floating point number is inside the value, and all objects inside it are in order -/
structure Kept (v : Json) : Prop where
  exact : v.all isExact = true
  ordered : v.all isOrdered = true

theorem nesting_le_of_mem {m : String × Json} {members : List (String × Json)} (hm : m ∈ members) :
    m.2.nesting ≤ nestingMembers members := by
  induction members with
  | nil => cases hm
  | cons n members ih =>
    rcases List.mem_cons.1 hm with rfl | hm
    · exact Nat.le_max_left ..
    · exact Nat.le_trans (ih hm) (Nat.le_max_right ..)

theorem allItems_iff {test : Json → Bool} {items : List Json} :
    allItems test items = true ↔ ∀ v ∈ items, v.all test = true := by
  induction items with
  | nil => simp [allItems]
  | cons v rest ih => simp [allItems, ih]

theorem allMembers_iff {test : Json → Bool} {members : List (String × Json)} :
    allMembers test members = true ↔ ∀ m ∈ members, m.2.all test = true := by
  induction members with
  | nil => simp [allMembers]
  | cons m rest ih => simp [allMembers, ih]

theorem Kept.items {items : List Json} (h : Kept (.array items)) : ∀ v ∈ items, Kept v := by
  obtain ⟨exact, ordered⟩ := h
  simp only [all, isExact, isOrdered, Bool.true_and, allItems_iff] at exact ordered
  exact fun v hv => ⟨exact v hv, ordered v hv⟩

theorem Kept.members {members : List (String × Json)} (h : Kept (.object members)) :
    Ascending members ∧ ∀ m ∈ members, Kept m.2 := by
  obtain ⟨exact, ordered⟩ := h
  simp only [all, isExact, isOrdered, Bool.true_and, Bool.and_eq_true, decide_eq_true_eq, allMembers_iff]
    at exact ordered
  exact ⟨ordered.1, fun m hm => ⟨exact m hm, ordered.2 m hm⟩⟩

/-- a value that holds no other values, and is no floating point number -/
def isLeaf : Json → Bool
  | .array _ | .object _ | .number (.double _) => false
  | _ => true

theorem kept_of_isLeaf {v : Json} (leaf : v.isLeaf = true) : Kept v := by
  match v with
  | .null | .bool _ | .text _ | .number (.natural _) | .number (.negative _) => exact ⟨rfl, rfl⟩

theorem nesting_of_isLeaf {v : Json} (leaf : v.isLeaf = true) : v.nesting = 0 := by
  match v with
  | .null | .bool _ | .text _ | .number _ => rfl

theorem shallow_of_isLeaf {v : Json} (leaf : v.isLeaf = true) (n : Nat) : Kept v ∧ v.nesting ≤ n := by
  refine ⟨kept_of_isLeaf leaf, ?_⟩
  rw [nesting_of_isLeaf leaf]
  exact Nat.zero_le n

theorem isLeaf_optional (s : Option String) : (optional s).isLeaf = true := by
  cases s <;> rfl

theorem not_kept_double (d : Double) : ¬ Kept (.number (.double d)) :=
  fun h => Bool.false_ne_true h.exact

/-! ## Members in order -/

/-- a name behind all others goes to the end -/
theorem insert_last (name : String) (v : Json) (members : List (String × Json)) (above : ∀ m ∈ members, m.1 < name) :
    insert name v members = members ++ [(name, v)] := by
  induction members with
  | nil => rfl
  | cons m members ih =>
    obtain ⟨n, w⟩ := m
    have below : n < name := above (n, w) (List.mem_cons_self ..)
    have after : ¬ name < n := String.lt_asymm below
    have other : name ≠ n := by
      rintro rfl
      exact String.lt_irrefl _ below
    rw [insert, if_neg after, if_neg other, ih fun m hm => above m (List.mem_cons_of_mem _ hm), List.cons_append]

theorem eq_or_mem_of_mem_insert {name : String} {v : Json} {m : String × Json} {members : List (String × Json)}
    (h : m ∈ insert name v members) : m = (name, v) ∨ m ∈ members := by
  induction members with
  | nil => exact .inl (List.mem_singleton.1 h)
  | cons n members ih =>
    unfold insert at h
    split_ifs at h
    · exact List.mem_cons.1 h
    · exact (List.mem_cons.1 h).imp_right (List.mem_cons_of_mem _)
    · rcases List.mem_cons.1 h with rfl | h
      · exact .inr List.mem_cons_self
      · exact (ih h).imp_right (List.mem_cons_of_mem _)

theorem ascending_insert (name : String) (v : Json) {members : List (String × Json)} (h : Ascending members) :
    Ascending (insert name v members) := by
  induction members with
  | nil => exact List.pairwise_singleton ..
  | cons m members ih =>
    obtain ⟨n, w⟩ := m
    obtain ⟨least, later⟩ := List.pairwise_cons.1 h
    unfold insert
    split_ifs with before same
    · refine List.pairwise_cons.2 ⟨fun a ha => ?_, h⟩
      rcases List.mem_cons.1 ha with rfl | ha
      · exact before
      · exact String.lt_trans before (least a ha)
    · subst same
      exact List.pairwise_cons.2 ⟨least, later⟩
    · refine List.pairwise_cons.2 ⟨fun a ha => ?_, ih later⟩
      rcases eq_or_mem_of_mem_insert ha with rfl | ha
      · -- neither below nor equal, so above
        by_contra above
        exact same (String.le_antisymm (String.not_lt.1 above) (String.not_lt.1 before))
      · exact least a ha

theorem ascending_foldl_insert (members : List (String × Json)) {acc : List (String × Json)} (h : Ascending acc) :
    Ascending (members.foldl (fun acc m => insert m.1 m.2 acc) acc) := by
  induction members generalizing acc with
  | nil => exact h
  | cons m members ih => exact ih (ascending_insert m.1 m.2 h)

/-- every object that is built from members is in order -/
theorem isOrdered_ofMembers (members : List (String × Json)) : (ofMembers members).isOrdered = true :=
  decide_eq_true (ascending_foldl_insert members .nil)

theorem mem_of_mem_foldl_insert {m : String × Json} {members acc : List (String × Json)}
    (h : m ∈ members.foldl (fun acc m => insert m.1 m.2 acc) acc) : m ∈ members ∨ m ∈ acc := by
  induction members generalizing acc with
  | nil => exact .inr h
  | cons n members ih =>
    rcases ih h with among | put
    · exact .inl (List.mem_cons_of_mem _ among)
    · rcases eq_or_mem_of_mem_insert put with rfl | before
      · exact .inl List.mem_cons_self
      · exact .inr before

theorem mem_of_mem_built {m : String × Json} {members : List (String × Json)}
    (h : m ∈ members.foldl (fun acc m => insert m.1 m.2 acc) []) : m ∈ members :=
  (mem_of_mem_foldl_insert h).resolve_right List.not_mem_nil

/-- an object that is built from members that are kept is kept -/
theorem kept_ofMembers {members : List (String × Json)} (kept : ∀ m ∈ members, Kept m.2) : Kept (ofMembers members) := by
  have ordered := isOrdered_ofMembers members
  have inside : ∀ m ∈ members.foldl (fun acc m => insert m.1 m.2 acc) [], Kept m.2 :=
    fun m hm => kept m (mem_of_mem_built hm)
  rw [ofMembers] at ordered ⊢
  refine ⟨?_, ?_⟩
  · simp only [all, isExact, Bool.true_and, allMembers_iff]
    exact fun m hm => (inside m hm).exact
  · simp only [all, ordered, Bool.true_and, allMembers_iff]
    exact fun m hm => (inside m hm).ordered

theorem nestingMembers_le {n : Nat} {members : List (String × Json)} (h : ∀ m ∈ members, m.2.nesting ≤ n) :
    nestingMembers members ≤ n := by
  induction members with
  | nil => exact Nat.zero_le n
  | cons m members ih =>
    exact Nat.max_le.2 ⟨h m List.mem_cons_self, ih fun m' hm => h m' (List.mem_cons_of_mem _ hm)⟩

/-- it nests one level deeper than its members -/
theorem nesting_ofMembers_le {n : Nat} {members : List (String × Json)} (h : ∀ m ∈ members, m.2.nesting ≤ n) :
    (ofMembers members).nesting ≤ n + 1 :=
  Nat.succ_le_succ (nestingMembers_le fun m hm => h m (mem_of_mem_built hm))

/-! ## Where a text begins -/

theorem isBlank_of_isDigit {c : Char} (digit : c.isDigit = true) : isBlank c = false := by
  simp only [isBlank, Bool.or_eq_false_iff, beq_eq_false_iff_ne]
  refine ⟨⟨⟨?_, ?_⟩, ?_⟩, ?_⟩ <;> (rintro rfl; contradiction)

theorem skipBlanks_cons {c : Char} (cs : List Char) (h : isBlank c = false) : skipBlanks (c :: cs) = c :: cs :=
  List.dropWhile_cons_of_neg (by simp [h])

/-- the text of a value begins with something that is neither a blank nor the end of an array, and with `n` only if the
value is null -/
theorem write_eq_cons {v : Json} (kept : Kept v) :
    ∃ c cs, write v = c :: cs ∧ isBlank c = false ∧ c ≠ ']' ∧ (c = 'n' → v = .null) := by
  match v with
  | .null => exact ⟨'n', _, rfl, rfl, by decide, fun _ => rfl⟩
  | .bool true => exact ⟨'t', _, rfl, rfl, by decide, by simp⟩
  | .bool false => exact ⟨'f', _, rfl, rfl, by decide, by simp⟩
  | .number (.natural n) =>
    obtain ⟨c, cs, digits, digit, -⟩ := toDigits_eq_cons n.toNat
    refine ⟨c, cs, by simp only [write, writeNumber, digits], isBlank_of_isDigit digit, ?_, ?_⟩
    · rintro rfl
      contradiction
    · rintro rfl
      contradiction
  | .number (.negative n) => exact ⟨'-', _, rfl, rfl, by decide, by simp⟩
  | .number (.double d) => exact absurd kept (not_kept_double d)
  | .text s => exact ⟨'"', _, rfl, rfl, by decide, by simp⟩
  | .array [] => exact ⟨'[', _, rfl, rfl, by decide, by simp⟩
  | .array (v :: rest) => exact ⟨'[', _, rfl, rfl, by decide, by simp⟩
  | .object [] => exact ⟨'\x7b', _, rfl, rfl, by decide, by simp⟩
  | .object ((name, v) :: rest) => exact ⟨'\x7b', _, rfl, rfl, by decide, by simp⟩

theorem one_le_length_write {v : Json} (kept : Kept v) : 1 ≤ (write v).length := by
  obtain ⟨c, cs, text, -⟩ := write_eq_cons kept
  rw [text, List.length_cons]
  exact Nat.succ_le_succ (Nat.zero_le _)

theorem one_le_length_writeItems (items : List Json) : 1 ≤ (writeItems items).length := by
  cases items <;> simp [writeItems]

theorem one_le_length_writeMembers (members : List (String × Json)) : 1 ≤ (writeMembers members).length := by
  cases members <;> simp [writeMembers]

theorem afterNumber_writeItems (items : List Json) (rest : List Char) : AfterNumber (writeItems items ++ rest) := by
  cases items with
  | nil => exact .cons rfl
  | cons v items => exact .cons rfl

theorem afterNumber_writeMembers (members : List (String × Json)) (rest : List Char) :
    AfterNumber (writeMembers members ++ rest) := by
  cases members with
  | nil => exact .cons rfl
  | cons m members => exact .cons rfl

/-! ## Between the values -/

theorem nextItem_first {v : Json} (kept : Kept v) (rest : List Char) :
    nextItem true (write v ++ rest) = .ok (true, write v ++ rest) := by
  obtain ⟨c, cs, text, blank, other, -⟩ := write_eq_cons kept
  rw [text, List.cons_append, nextItem, skipBlanks_cons _ blank]
  simp only [other, ↓reduceIte]

theorem nextItem_comma {v : Json} (kept : Kept v) (rest : List Char) :
    nextItem false (',' :: (write v ++ rest)) = .ok (true, write v ++ rest) := by
  obtain ⟨c, cs, text, blank, other, -⟩ := write_eq_cons kept
  rw [text, List.cons_append, nextItem, skipBlanks_cons _ rfl]
  simp only [Char.reduceEq, ↓reduceIte, Bool.false_eq_true, skipBlanks_cons _ blank]
  split
  · contradiction
  · rename_i heq
    exact absurd (List.cons.inj heq).1 other
  · rename_i heq _ _
    rfl

theorem nextItem_end (first : Bool) (rest : List Char) : nextItem first (']' :: rest) = .ok (false, rest) := rfl

theorem nextName_first (rest : List Char) : nextName true ('"' :: rest) = .ok (true, rest) := rfl

theorem nextName_comma (rest : List Char) : nextName false (',' :: '"' :: rest) = .ok (true, rest) := rfl

theorem nextName_end (first : Bool) (rest : List Char) : nextName first ('\x7d' :: rest) = .ok (false, rest) := rfl

theorem scanColon_cons (rest : List Char) : scanColon (':' :: rest) = .ok rest := rfl

theorem deeper_of_lt {nested depth : Nat} (h : nested + 1 < depth) : deeper depth = .ok (depth - 1) := by
  rw [deeper, if_neg (by omega)]

theorem readItems_step {depth fuel : Nat} {first : Bool} {acc : List Json} {v : Json} {cs text rest : List Char}
    (next : nextItem first cs = .ok (true, text)) (value : readValue depth fuel text = .ok (v, rest)) :
    readItems depth first acc (fuel + 1) cs = readItems depth false (v :: acc) fuel rest := by
  rw [readItems, next]
  simp only [value]

theorem readMembers_step {depth fuel : Nat} {first : Bool} {acc : List (String × Json)} {name : String} {v : Json}
    {cs rest : List Char}
    (next : nextName first cs = .ok (true, name.toList.flatMap escapeChar ++ '"' :: ':' :: (write v ++ rest)))
    (value : readValue depth fuel (write v ++ rest) = .ok (v, rest)) :
    readMembers depth first acc (fuel + 1) cs = readMembers depth false (insert name v acc) fuel rest := by
  rw [readMembers, next]
  simp only [readText_writeText, scanColon_cons, value]

/-! ## Values -/

theorem readValue_digit (depth fuel : Nat) {c : Char} (cs : List Char) (digit : c.isDigit = true) :
    readValue depth (fuel + 1) (c :: cs) = (readNumber false (c :: cs)).map (fun (n, r) => (.number n, r)) := by
  have other : ∀ d : Char, d.isDigit = false → c ≠ d := by
    rintro d hd rfl
    rw [hd] at digit
    contradiction
  rw [readValue, skipBlanks_cons _ (isBlank_of_isDigit digit)]
  simp only [other 'n' rfl, other 't' rfl, other 'f' rfl, other '-' rfl, digit, ↓reduceIte]

theorem readValue_array (fuel : Nat) (cs : List Char) {depth inner : Nat} (deep : deeper depth = .ok inner) :
    readValue depth (fuel + 1) ('[' :: cs) = (readItems inner true [] fuel cs).map (fun (vs, r) => (.array vs, r)) := by
  rw [readValue, skipBlanks_cons _ rfl]
  simp only [Char.reduceEq, Char.reduceIsDigit, Bool.false_eq_true, ↓reduceIte, deep]

theorem readValue_object (fuel : Nat) (cs : List Char) {depth inner : Nat} (deep : deeper depth = .ok inner) :
    readValue depth (fuel + 1) ('\x7b' :: cs)
      = (readMembers inner true [] fuel cs).map (fun (ms, r) => (.object ms, r)) := by
  rw [readValue, skipBlanks_cons _ rfl]
  simp only [Char.reduceEq, Char.reduceIsDigit, Bool.false_eq_true, ↓reduceIte, deep]

mutual

/-- the text of a value is read as this value; every step takes at least one character, so its length is enough -/
theorem readValue_write : ∀ (v : Json) (depth fuel : Nat) (rest : List Char), Kept v → v.nesting < depth →
    (write v).length ≤ fuel → AfterNumber rest → readValue depth fuel (write v ++ rest) = .ok (v, rest)
  | v, depth, 0, rest, kept, _, enough, _ => by
    have := one_le_length_write kept
    omega
  | .null, depth, fuel + 1, rest, _, _, _, _ => rfl
  | .bool true, depth, fuel + 1, rest, _, _, _, _ => rfl
  | .bool false, depth, fuel + 1, rest, _, _, _, _ => rfl
  | .number (.natural n), depth, fuel + 1, rest, _, _, _, after => by
    obtain ⟨c, cs, digits, digit, -⟩ := toDigits_eq_cons n.toNat
    have number := readNumber_natural n after
    rw [digits, List.cons_append] at number
    simp only [write, writeNumber, digits, List.cons_append]
    rw [readValue_digit depth fuel _ digit, number]
    rfl
  | .number (.negative n), depth, fuel + 1, rest, _, _, _, after => by
    simp only [write, writeNumber, List.cons_append]
    rw [readValue, skipBlanks_cons _ rfl]
    simp only [Char.reduceEq, ↓reduceIte, readNumber_negative n after]
    rfl
  | .number (.double d), depth, fuel + 1, rest, kept, _, _, _ => absurd kept (not_kept_double d)
  | .text s, depth, fuel + 1, rest, _, _, _, _ => by
    simp only [write]
    rw [writeText_append, readValue, skipBlanks_cons _ rfl]
    simp only [Char.reduceEq, Char.reduceIsDigit, Bool.false_eq_true, ↓reduceIte, readText_writeText]
    rfl
  | .array [], depth, fuel + 1, rest, _, deep, enough, _ => by
    obtain ⟨fuel, rfl⟩ : ∃ more, fuel = more + 1 := ⟨fuel - 1, by simp only [write, List.length_cons] at enough; omega⟩
    simp only [nesting, nestingItems] at deep
    simp only [write, List.cons_append, List.nil_append]
    rw [readValue_array _ _ (deeper_of_lt deep), readItems, nextItem_end]
    rfl
  | .array (v :: items), depth, fuel + 1, rest, kept, deep, enough, _ => by
    have hv : Kept v := kept.items v (List.mem_cons_self ..)
    have hv' := one_le_length_write hv
    have hitems' := one_le_length_writeItems items
    simp only [nesting, nestingItems] at deep
    simp only [write, List.length_cons, List.length_append] at enough
    obtain ⟨fuel, rfl⟩ : ∃ more, fuel = more + 1 := ⟨fuel - 1, by omega⟩
    have value := readValue_write v (depth - 1) fuel (writeItems items ++ rest) hv (by omega) (by omega)
      (afterNumber_writeItems items rest)
    -- the first item stands alone, the others follow a comma each
    have others := readItems_writeItems items (depth - 1) fuel [v] rest
      (fun w hw => kept.items w (List.mem_cons_of_mem _ hw)) (by omega) (by omega)
    simp only [write, List.cons_append, List.append_assoc]
    rw [readValue_array _ _ (deeper_of_lt deep), readItems_step (nextItem_first hv _) value, others]
    rfl
  | .object [], depth, fuel + 1, rest, _, deep, enough, _ => by
    obtain ⟨fuel, rfl⟩ : ∃ more, fuel = more + 1 := ⟨fuel - 1, by simp only [write, List.length_cons] at enough; omega⟩
    simp only [nesting, nestingMembers] at deep
    simp only [write, List.cons_append, List.nil_append]
    rw [readValue_object _ _ (deeper_of_lt deep), readMembers, nextName_end]
    rfl
  | .object ((name, v) :: members), depth, fuel + 1, rest, kept, deep, enough, _ => by
    obtain ⟨ascending, kept⟩ := kept.members
    have hv : Kept v := kept (name, v) (List.mem_cons_self ..)
    have hv' := one_le_length_write hv
    have hmembers' := one_le_length_writeMembers members
    simp only [nesting, nestingMembers] at deep
    simp only [write, List.length_cons, List.length_append] at enough
    obtain ⟨fuel, rfl⟩ : ∃ more, fuel = more + 1 := ⟨fuel - 1, by omega⟩
    have value := readValue_write v (depth - 1) fuel (writeMembers members ++ rest) hv (by omega) (by omega)
      (afterNumber_writeMembers members rest)
    have others := readMembers_writeMembers members (depth - 1) fuel [(name, v)] rest ascending
      (fun w hw => kept w (List.mem_cons_of_mem _ hw)) (by omega) (by omega)
    simp only [write, List.cons_append, List.append_assoc, writeText_append]
    rw [readValue_object _ _ (deeper_of_lt deep), readMembers_step (nextName_first _) value, insert, others]
    rfl

theorem readItems_writeItems : ∀ (items : List Json) (depth fuel : Nat) (acc : List Json) (rest : List Char),
    (∀ v ∈ items, Kept v) → nestingItems items < depth → (writeItems items).length ≤ fuel →
    readItems depth false acc fuel (writeItems items ++ rest) = .ok (acc.reverse ++ items, rest)
  | items, depth, 0, acc, rest, _, _, enough => by
    have := one_le_length_writeItems items
    omega
  | [], depth, fuel + 1, acc, rest, _, _, _ => by
    rw [writeItems, List.singleton_append, readItems, nextItem_end, List.append_nil]
  | v :: items, depth, fuel + 1, acc, rest, kept, deep, enough => by
    have hv : Kept v := kept v (List.mem_cons_self ..)
    simp only [nestingItems, writeItems, List.length_cons, List.length_append] at deep enough
    have value := readValue_write v depth fuel (writeItems items ++ rest) hv (by omega) (by omega)
      (afterNumber_writeItems items rest)
    have items' := readItems_writeItems items depth fuel (v :: acc) rest
      (fun w hw => kept w (List.mem_cons_of_mem _ hw)) (by omega) (by omega)
    rw [writeItems, List.cons_append, List.cons_append, List.append_assoc, readItems_step (nextItem_comma hv _) value, items',
      List.reverse_cons, List.append_assoc, List.singleton_append]

theorem readMembers_writeMembers : ∀ (members : List (String × Json)) (depth fuel : Nat) (acc : List (String × Json))
    (rest : List Char), Ascending (acc ++ members) → (∀ m ∈ members, Kept m.2) → nestingMembers members < depth →
    (writeMembers members).length ≤ fuel →
    readMembers depth false acc fuel (writeMembers members ++ rest) = .ok (acc ++ members, rest)
  | members, depth, 0, acc, rest, _, _, _, enough => by
    have := one_le_length_writeMembers members
    omega
  | [], depth, fuel + 1, acc, rest, _, _, _, _ => by
    rw [writeMembers, List.singleton_append, readMembers, nextName_end, List.append_nil]
  | (name, v) :: members, depth, fuel + 1, acc, rest, ascending, kept, deep, enough => by
    have hv : Kept v := kept (name, v) (List.mem_cons_self ..)
    simp only [nestingMembers, writeMembers, List.length_cons, List.length_append] at deep enough
    have value := readValue_write v depth fuel (writeMembers members ++ rest) hv (by omega) (by omega)
      (afterNumber_writeMembers members rest)
    -- the names ascend, so the member that was read goes behind all that were read before
    have last : insert name v acc = acc ++ [(name, v)] :=
      insert_last name v acc fun m hm => (List.pairwise_append.1 ascending).2.2 m hm _ (List.mem_cons_self ..)
    have others := readMembers_writeMembers members depth fuel (acc ++ [(name, v)]) rest
      (by rwa [List.append_assoc, List.singleton_append]) (fun w hw => kept w (List.mem_cons_of_mem _ hw))
      (by omega) (by omega)
    simp only [writeMembers, List.cons_append, List.append_assoc, writeText_append]
    rw [readMembers_step (nextName_comma _) value, last, others, List.append_assoc, List.singleton_append]

end

/-! ## Whole texts -/

theorem read_render {v : Json} (kept : Kept v) (shallow : v.nesting < depthLimit) : read v.render = .ok v := by
  have enough : (write v).length ≤ steps (write v) := by
    unfold steps
    omega
  have value := readValue_write v depthLimit (steps (write v)) [] kept shallow enough .nil
  rw [List.append_nil] at value
  simp only [read, readWithin, render, String.toList_ofList, value, bind, Except.bind]
  rfl

theorem render_inj {v w : Json} (hv : Kept v) (hw : Kept w) (shallowv : v.nesting < depthLimit)
    (shalloww : w.nesting < depthLimit) : v.render = w.render ↔ v = w := by
  refine ⟨fun same => ?_, fun same => congrArg render same⟩
  have back := read_render hv shallowv
  rw [same, read_render hw shalloww] at back
  exact (Except.ok.inj back).symm

end LineTerminal.Json
