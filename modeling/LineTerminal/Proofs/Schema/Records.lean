/-
Records read from the members of a mapping.

A mapping is its members in the order of the text, each with the text of its key. `Filled` reads them into a record one
after another: each key has to be the name of a field and must not have been met before, and its field has to accept the
value. So a mapping with an unknown key, with a key that is no text, or with a key twice is no record, whatever else it
holds (`Filled.not_ill`), and neither is one with a value that its field refuses (`Filled.accepted`). When each value sets
its own part of the record and leaves the others, the record that is read has the given parts from the mapping and all
others from the record it started with (`Filled.overlay`).

`Source.Reads` says what a data format has to keep for that: it reads a mapping as `Filled` does, and it reads a value
that tells something as what it tells. `Json.reads` shows it for JSON values, with every order of the members and members
that come twice.
-/
import Mathlib.Data.List.Forall2
import Mathlib.Data.List.Nodup
import LineTerminal.Json.Source

namespace LineTerminal.Schema

variable {ν ε α κ : Type}

/-- the members of a mapping with the texts of their keys; none for a key that is no text -/
abbrev Members (ν : Type) := List (Option String × ν)

/-- the field that is found by a name is one of the fields, and has the name -/
theorem fieldNamed_eq_ok {fields : List (Field ν ε α)} {name : String} {field : Field ν ε α}
    (found : fieldNamed fields name = .ok field) : field ∈ fields ∧ field.name = name := by
  unfold fieldNamed at found
  split at found
  · rename_i f at_name
    cases found
    exact ⟨List.mem_of_find?_eq_some at_name, by simpa using List.find?_some at_name⟩
  · cases found

/-- members read into a record, one after another; the names in `seen` were met before -/
inductive Filled (fields : List (Field ν ε α)) : List String → α → Members ν → α → Prop
  | done {seen : List String} {start : α} : Filled fields seen start [] start
  | member {seen : List String} {name : String} {v : ν} {field : Field ν ε α} {start next a : α} {rest : Members ν}
      (known : fieldNamed fields name = .ok field) (fresh : name ∉ seen) (accepted : field.read v start = .ok next)
      (others : Filled fields (name :: seen) next rest a) : Filled fields seen start ((some name, v) :: rest) a

/-- keys that no record with these names has -/
inductive Ill (names : List String) (keys : List (Option String)) : Prop
  | unknown (key : String) (among : some key ∈ keys) (strange : key ∉ names)
  /-- a key that is no text -/
  | textless (among : none ∈ keys)
  | twice (key : String) (again : 2 ≤ keys.count (some key))

namespace Filled

variable {fields : List (Field ν ε α)} {seen : List String} {start a : α} {ms : Members ν}

/-- every key is the name of a field and was not met before -/
theorem named (filled : Filled fields seen start ms a) {key : Option String} (among : key ∈ ms.map Prod.fst) :
    ∃ name, key = some name ∧ name ∈ fields.map Field.name ∧ name ∉ seen := by
  induction filled with
  | done => cases among
  | @member seen name v field start next a rest known fresh accepted others ih =>
    rw [List.map_cons, List.mem_cons] at among
    rcases among with rfl | among
    · obtain ⟨mem, at_name⟩ := fieldNamed_eq_ok known
      exact ⟨name, rfl, at_name ▸ List.mem_map_of_mem mem, fresh⟩
    · obtain ⟨other, rfl, mem, unseen⟩ := ih among
      exact ⟨other, rfl, mem, fun old => unseen (List.mem_cons_of_mem _ old)⟩

theorem nodup (filled : Filled fields seen start ms a) : (ms.map Prod.fst).Nodup := by
  induction filled with
  | done => exact List.nodup_nil
  | @member seen name v field start next a rest known fresh accepted others ih =>
    rw [List.map_cons, List.nodup_cons]
    refine ⟨fun again => ?_, ih⟩
    obtain ⟨same, at_same, -, unseen⟩ := others.named again
    cases at_same
    exact unseen List.mem_cons_self

/-- a mapping with an unknown key, a key that is no text or a key twice is no record -/
theorem not_ill (filled : Filled fields seen start ms a) : ¬ Ill (fields.map Field.name) (ms.map Prod.fst) := by
  intro ill
  cases ill with
  | unknown key among strange =>
    obtain ⟨name, at_name, known, -⟩ := filled.named among
    cases at_name
    exact strange known
  | textless among =>
    obtain ⟨name, at_name, -⟩ := filled.named among
    cases at_name
  | twice key again =>
    have once := List.nodup_iff_count_le_one.1 filled.nodup (some key)
    omega

/-- every value was accepted by the field of its key -/
theorem accepted (filled : Filled fields seen start ms a) {name : String} {v : ν} (among : (some name, v) ∈ ms) :
    ∃ field before next, fieldNamed fields name = .ok field ∧ field.read v before = .ok next := by
  induction filled with
  | done => cases among
  | @member seen first w field start next a rest known fresh accepted others ih =>
    rcases List.mem_cons.1 among with same | among
    · cases same
      exact ⟨field, start, next, known, accepted⟩
    · exact ih among

end Filled

/-! ## Overlays -/

/-- a value under a name takes that part of a record over from `c` and leaves the other parts, whatever the record was -/
def Sets (part : String → α → κ) (fields : List (Field ν ε α)) (c : α) (name : String) (v : ν) : Prop :=
  ∃ field, fieldNamed fields name = .ok field ∧ ∀ before, ∃ next, field.read v before = .ok next ∧
    part name next = part name c ∧ ∀ other, other ≠ name → part other next = part other before

/-- **Overlay.** Members whose keys are different names and whose values set their parts are read, and the record has
those parts from `c` and the others from the one it started with -/
theorem Filled.overlay {part : String → α → κ} {fields : List (Field ν ε α)} {c : α} {ms : Members ν}
    (sets : ∀ m ∈ ms, ∃ name, m.1 = some name ∧ Sets part fields c name m.2) (nodup : (ms.map Prod.fst).Nodup)
    (seen : List String) (unseen : ∀ name ∈ seen, some name ∉ ms.map Prod.fst) (start : α) :
    ∃ a, Filled fields seen start ms a ∧ ∀ name,
      part name a = if some name ∈ ms.map Prod.fst then part name c else part name start := by
  induction ms generalizing seen start with
  | nil => exact ⟨start, .done, fun name => rfl⟩
  | cons m rest ih =>
    obtain ⟨key, v⟩ := m
    obtain ⟨name, rfl, field, known, reads⟩ := sets (key, v) List.mem_cons_self
    obtain ⟨next, accepted, set, others⟩ := reads start
    rw [List.map_cons, List.nodup_cons] at nodup
    obtain ⟨a, filled, parts⟩ := ih (fun m among => sets m (List.mem_cons_of_mem _ among)) nodup.2 (name :: seen)
      (fun old among later => by
        rcases List.mem_cons.1 among with rfl | among
        · exact nodup.1 later
        · exact unseen old among (List.mem_cons_of_mem _ later))
      next
    have fresh : name ∉ seen := fun old => unseen name old List.mem_cons_self
    refine ⟨a, .member known fresh accepted filled, fun other => ?_⟩
    rw [parts other, List.map_cons]
    by_cases same : other = name
    · subst same
      rw [if_neg nodup.1, if_pos List.mem_cons_self, set]
    · rw [others other same]
      simp only [List.mem_cons, Option.some.injEq, same, false_or]

/-! ## What a data format keeps -/

/-- a value is read as a record from these members -/
def Source.Lays (s : Source ν ε) (v : ν) (ms : Members ν) : Prop :=
  ∀ {α : Type} (name : String) (fields : List (Field ν ε α)) (start a : α),
    s.record name fields start v = .ok a ↔ Filled fields [] start ms a

/-- a data format whose mappings have the members `members?`, and whose values are read as what they tell -/
structure Source.Reads (s : Source ν ε) (members? : ν → Option (Members ν)) (Tells : ν → Json → Prop) : Prop where
  lays {v : ν} {ms : Members ν} (found : members? v = some ms) : s.Lays v ms
  word {v : ν} {n : UInt32} (told : Tells v (.word n)) : s.word v = .ok n
  size {v : ν} {n : UInt64} (told : Tells v (.natural n)) : s.size v = .ok n
  flag {v : ν} {b : Bool} (told : Tells v (.bool b)) : s.flag v = .ok b
  text {v : ν} {t : String} (told : Tells v (.text t)) : s.text v = .ok t
  choice {β : Type} {known : List (String × β)} {v : ν} {name : String} {b : β} (told : Tells v (.text name))
    (found : known.lookup name = some b) : s.choice known v = .ok b
  mapping {v : ν} {js : List (String × Json)} (told : Tells v (.object js)) : ∃ ms, members? v = some ms ∧
    ms.map Prod.fst = js.map (fun m => some m.1) ∧ List.Forall₂ Tells (ms.map Prod.snd) (js.map Prod.snd)

/-- a member that is told is in the mapping, with its key -/
theorem told_member {Tells : ν → Json → Prop} {ms : Members ν} {js : List (String × Json)}
    (keys : ms.map Prod.fst = js.map (fun m => some m.1))
    (values : List.Forall₂ Tells (ms.map Prod.snd) (js.map Prod.snd)) {m : Option String × ν} (among : m ∈ ms) :
    ∃ j ∈ js, m.1 = some j.1 ∧ Tells m.2 j.2 := by
  induction ms generalizing js with
  | nil => cases among
  | cons first ms ih =>
    cases js with
    | nil => cases keys
    | cons j js =>
      rw [List.map_cons, List.map_cons, List.cons.injEq] at keys
      rw [List.map_cons, List.map_cons, List.forall₂_cons] at values
      rcases List.mem_cons.1 among with rfl | among
      · exact ⟨j, List.mem_cons_self, keys.1, values.1⟩
      · obtain ⟨other, mem, told⟩ := ih keys.2 values.2 among
        exact ⟨other, List.mem_cons_of_mem _ mem, told⟩

end LineTerminal.Schema

/-! ## JSON values -/

namespace LineTerminal.Json

open Schema

def members? : Json → Option (Members Json)
  | .object js => some (js.map (fun m => (some m.1, m.2)))
  | _ => none

theorem readAll_eq_ok_iff {α : Type} {fields : List (Field Json Mismatch α)} (js : List (String × Json))
    (seen : List String) (start a : α) :
    Decoding.readAll fields seen start js = .ok a ↔ Filled fields seen start (js.map (fun m => (some m.1, m.2))) a := by
  induction js generalizing seen start with
  | nil =>
    constructor
    · intro same
      cases same
      exact .done
    · intro filled
      cases filled
      rfl
  | cons j rest ih =>
    obtain ⟨name, value⟩ := j
    constructor
    · intro read
      unfold Decoding.readAll at read
      cases known : fieldNamed fields name with
      | error m => simp [known, bind, Except.bind] at read
      | ok field =>
        by_cases old : name ∈ seen
        · simp [known, old, bind, Except.bind] at read
        · cases accepted : field.read value start with
          | error m => simp [known, old, accepted, bind, Except.bind] at read
          | ok next =>
            simp only [known, old, accepted, bind, Except.bind, List.contains_eq_mem, decide_false, Bool.false_eq_true,
              if_false] at read
            exact .member known old accepted ((ih _ _).1 read)
    · intro filled
      cases filled with
      | member known fresh accepted others =>
        simp [Decoding.readAll, known, fresh, accepted, bind, Except.bind, (ih _ _).2 others]

/-- JSON values are read as what they are -/
theorem reads : Source.Reads source members? (· = ·) where
  lays {v ms} found := by
    intro α name fields start a
    cases v with
    | object js =>
      cases found
      exact readAll_eq_ok_iff js [] start a
    | _ => cases found
  word {v n} told := by
    subst told
    have small : n.toNat < UInt32.size := n.toNat_lt
    simp [source, word, natural, Decoding.whole, small, Except.map]
  size {v n} told := by
    subst told
    have small : n.toNat < UInt64.size := n.toNat_lt
    simp [source, natural, Decoding.whole, small, Except.map]
  flag told := by
    subst told
    rfl
  text told := by
    subst told
    rfl
  choice told found := by
    subst told
    simp [source, Decoding.choice, choose, found]
  mapping {v js} told := by
    subst told
    refine ⟨_, rfl, ?_, ?_⟩
    · rw [List.map_map]
      rfl
    · rw [List.map_map]
      exact List.forall₂_same.2 (fun _ _ => rfl)

end LineTerminal.Json
