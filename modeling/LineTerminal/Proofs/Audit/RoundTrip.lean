/-
Records of the audit trail survive their JSON text.

A record is `Portable` when its year has four digits, its details are kept by the JSON reader, and its JSON value nests at
most 127 levels, the record's own level counted. Of such a record:

- `readMembers_writeFields`: each member that is written is read into the draft's own field, and nothing else is touched.
- `read_render`: its text is read as the record itself, except that details that are present and null are left out.
- `render_withoutNull`: without the null the text is another one.
- `Plain.portable`, `Plain.read_render`: details that are built from members, as those of the program are, leave nothing to
  ask for but the year.
- `record_survives`: the two together. So different records have different texts, and what was read is written as the
  same text exactly when the details are not null.
-/
import Mathlib.Data.List.Basic
import LineTerminal.Audit.Reader
import LineTerminal.Proofs.Json.RoundTrip
import LineTerminal.Proofs.Time.RoundTrip

namespace LineTerminal.Audit

open Json (Fault AfterNumber)

/-! ## Records that come back -/

namespace Record

/-- a record whose text is read back -/
structure Portable (r : Record) : Prop where
  /-- the year has four digits -/
  year : 0 ≤ r.timestamp.date.year ∧ r.timestamp.date.year ≤ 9999
  /-- no floating point number is inside the details, and the objects inside them are in order -/
  details : ∀ d ∈ r.details, Json.Kept d
  /-- the levels of the record's JSON value, its own one counted -/
  nesting : (Json.object r.members).nesting ≤ 127

def withoutNull (r : Record) : Record := { r with details := r.details.filter (fun d => !d.isNull) }

/-- the text that would stand for a record that cannot be written -/
def unwritable (message : String) : String :=
  "\x7b\"error\":\"serialization_failed\",\"message\":\"" ++ message ++ "\"\x7d"

/-- the value of a field in a record's JSON text, if the field is not left out -/
def value? (r : Record) : Key → Option Json
  | .timestamp => some (.text r.timestamp.render)
  | .category => some (.text r.category.name)
  | .source => some (.text r.source)
  | .action => some (.text r.action)
  | .outcome => some (.text r.outcome.name)
  | .objectId => r.objectId.map .text
  | .objectType => r.objectType.map .text
  | .details => r.details
  | .error => r.error.map .text
  | .correlationId => r.correlationId.map .text

def fields (r : Record) (keys : List Key) : List (String × Json) :=
  keys.filterMap (fun key => (r.value? key).map (fun v => (key.name, v)))

theorem members_eq (r : Record) : r.members = r.fields Key.all := by
  obtain ⟨timestamp, category, source, action, outcome, objectId, objectType, details, error, correlationId⟩ := r
  cases objectId <;> cases objectType <;> cases details <;> cases error <;> cases correlationId <;> rfl

/-- the first member is always there -/
theorem members_eq_cons (r : Record) :
    r.members = ("timestamp", .text r.timestamp.render) :: r.fields Key.all.tail := r.members_eq

theorem fields_append (r : Record) (keys more : List Key) : r.fields (keys ++ more) = r.fields keys ++ r.fields more :=
  List.filterMap_append ..

theorem fields_withoutNull {r : Record} (keys : List Key) (h : Key.details ∉ keys) :
    r.withoutNull.fields keys = r.fields keys := by
  refine List.filterMap_congr fun key hk => ?_
  have other : key ≠ .details := by
    rintro rfl
    exact h hk
  cases key <;> first | rfl | contradiction

theorem Portable.shallow {r : Record} (h : r.Portable) {d : Json} (hd : d ∈ r.details) : d.nesting < 127 := by
  have member : ("details", d) ∈ r.members := by
    rw [members_eq]
    refine List.mem_filterMap.2 ⟨.details, by decide, ?_⟩
    simp only [value?, Option.mem_def.1 hd, Option.map_some, Key.name]
  have deep : (Json.object r.members).nesting ≤ 127 := h.nesting
  have below : d.nesting ≤ Json.nestingMembers r.members := Json.nesting_le_of_mem member
  simp only [Json.nesting] at deep
  omega

end Record

/-! ## One field -/

def Draft.put (r : Record) (d : Draft) : Key → Draft
  | .timestamp => { d with timestamp := some r.timestamp }
  | .category => { d with category := some r.category }
  | .source => { d with source := some r.source }
  | .action => { d with action := some r.action }
  | .outcome => { d with outcome := some r.outcome }
  | .objectId => { d with objectId := some r.objectId }
  | .objectType => { d with objectType := some r.objectType }
  | .details => { d with details := some r.withoutNull.details }
  | .error => { d with error := some r.error }
  | .correlationId => { d with correlationId := some r.correlationId }

theorem Draft.has_put (r : Record) (d : Draft) (key other : Key) (h : other ≠ key) :
    (d.put r key).has other = d.has other := by
  cases key <;> cases other <;> first | rfl | contradiction

theorem Key.named?_name (key : Key) : Key.named? key.name = some key := by
  cases key <;> decide

theorem choose_category (c : Category) : Schema.choose categories c.name = .ok c := by
  cases c <;> rfl

theorem choose_outcome (o : Outcome) : Schema.choose outcomes o.name = .ok o := by
  cases o <;> rfl

theorem text_writeText (expected s : String) (rest : List Char) :
    Reader.text expected (Json.writeText s ++ rest) = .ok (s, rest) := by
  rw [Json.writeText_append, Reader.text, Json.skipBlanks_cons _ rfl]
  exact Json.readText_writeText s rest

/-- what does not begin with the letter of null is there -/
theorem optional_cons {α : Type} (read : List Char → Except Fault (α × List Char)) {c : Char} (cs : List Char)
    (blank : Json.isBlank c = false) (other : c ≠ 'n') :
    Reader.optional read (c :: cs) = (read (c :: cs)).map (fun (a, r) => (some a, r)) := by
  rw [Reader.optional, Json.skipBlanks_cons _ blank]
  split
  · rename_i heq
    exact absurd (List.cons.inj heq).1 other
  · rfl

theorem optional_writeText (expected s : String) (rest : List Char) :
    Reader.optional (Reader.text expected) (Json.writeText s ++ rest) = .ok (some s, rest) := by
  have read := text_writeText expected s rest
  rw [Json.writeText_append] at read ⊢
  rw [optional_cons _ _ rfl (by decide), read]
  rfl

theorem choice_writeText {α : Type} {known : List (String × α)} {name : String} {a : α} (depth : Nat)
    (rest : List Char) (chosen : Schema.choose known name = .ok a) :
    Reader.choice known depth (Json.writeText name ++ rest) = .ok (a, rest) := by
  rw [Json.writeText_append, Reader.choice, Json.skipBlanks_cons _ rfl]
  simp only [Json.readText_writeText, chosen, bind, Except.bind, pure, Except.pure]

theorem timestamp_writeText {t : Time.Timestamp} (rest : List Char)
    (common : 0 ≤ t.date.year ∧ t.date.year ≤ 9999) :
    Reader.timestamp (Json.writeText t.render ++ rest) = .ok (t, rest) := by
  simp only [Reader.timestamp, text_writeText, Time.Timestamp.read_render t common, bind, Except.bind, pure,
    Except.pure]

/-- details come back as they are, except null -/
theorem optional_write {d : Json} {depth : Nat} {rest : List Char} (kept : Json.Kept d) (shallow : d.nesting < depth)
    (after : AfterNumber rest) :
    Reader.optional (Reader.anything depth) (Json.write d ++ rest)
      = .ok ((some d).filter (fun d => !d.isNull), rest) := by
  by_cases null : d = .null
  · subst null
    rfl
  · have enough : (Json.write d).length ≤ Json.steps (Json.write d ++ rest) := by
      rw [Json.steps, List.length_append]
      omega
    have value := Json.readValue_write d depth _ rest kept shallow enough after
    obtain ⟨c, cs, text, blank, -, other⟩ := Json.write_eq_cons kept
    have present : d.isNull = false := by
      cases d <;> first | rfl | contradiction
    rw [text, List.cons_append] at value ⊢
    rw [optional_cons _ _ blank (fun hc => null (other hc)), Reader.anything, value]
    simp only [Except.map, Option.filter_some, present, Bool.not_false, ↓reduceIte]

theorem readField_write {r : Record} (h : r.Portable) (d : Draft) {key : Key} {v : Json} {rest : List Char}
    (given : r.value? key = some v) (after : AfterNumber rest) :
    d.readField 127 key (Json.write v ++ rest) = .ok (d.put r key, rest) := by
  cases key with
  | timestamp =>
    cases given
    rw [Draft.readField, Json.write, timestamp_writeText rest h.year]
    rfl
  | category =>
    cases given
    rw [Draft.readField, Json.write, choice_writeText 127 rest (choose_category r.category)]
    rfl
  | source =>
    cases given
    rw [Draft.readField, Json.write, text_writeText]
    rfl
  | action =>
    cases given
    rw [Draft.readField, Json.write, text_writeText]
    rfl
  | outcome =>
    cases given
    rw [Draft.readField, Json.write, choice_writeText 127 rest (choose_outcome r.outcome)]
    rfl
  | details =>
    have hd : r.details = some v := given
    rw [Draft.readField, optional_write (h.details v hd) (h.shallow hd) after, ← hd]
    rfl
  | objectId | objectType | error | correlationId =>
    obtain ⟨s, hs, rfl⟩ := Option.map_eq_some_iff.1 given
    rw [Draft.readField, Json.write, optional_writeText, Draft.put, hs]
    rfl

/-! ## All fields -/

/-- put the record's values of those fields that it does not leave out -/
def Draft.putAll (r : Record) (d : Draft) (keys : List Key) : Draft :=
  keys.foldl (fun d key => if (r.value? key).isSome then d.put r key else d) d

theorem readMembers_step {depth fuel : Nat} {first : Bool} {d d' : Draft} {key : Key} {v : Json} {cs rest : List Char}
    (next : Json.nextName first cs
      = .ok (true, key.name.toList.flatMap Json.escapeChar ++ '"' :: ':' :: (Json.write v ++ rest)))
    (fresh : d.has key = false) (field : d.readField depth key (Json.write v ++ rest) = .ok (d', rest)) :
    d.readMembers depth first (fuel + 1) cs = d'.readMembers depth false fuel rest := by
  rw [Draft.readMembers, next]
  simp only [bind, Except.bind, Bool.not_true, Bool.false_eq_true, ↓reduceIte, Json.readText_writeText,
    Key.named?_name, fresh, Json.scanColon_cons, field]

/-- the further members of a record are read into their fields, up to the end of the object -/
theorem readMembers_writeFields {r : Record} (h : r.Portable) (keys : List Key) (d : Draft) (fuel : Nat)
    (rest : List Char) (distinct : keys.Nodup) (fresh : ∀ key ∈ keys, d.has key = false)
    (enough : (Json.writeMembers (r.fields keys)).length ≤ fuel) :
    d.readMembers 127 false fuel (Json.writeMembers (r.fields keys) ++ rest) = .ok (d.putAll r keys, rest) := by
  induction keys generalizing d fuel with
  | nil =>
    obtain ⟨fuel, rfl⟩ := Nat.exists_eq_add_one_of_ne_zero (Nat.ne_of_gt enough)
    rfl
  | cons key keys ih =>
    obtain ⟨new, distinct⟩ := List.nodup_cons.1 distinct
    have fresh' : ∀ k ∈ keys, d.has k = false := fun k hk => fresh k (List.mem_cons_of_mem _ hk)
    cases given : r.value? key with
    | none =>
      have skipped : r.fields (key :: keys) = r.fields keys := by simp [Record.fields, given]
      have untouched : d.putAll r (key :: keys) = d.putAll r keys := by simp [Draft.putAll, given]
      rw [skipped] at enough ⊢
      rw [untouched, ih d fuel distinct fresh' enough]
    | some v =>
      have written : r.fields (key :: keys) = (key.name, v) :: r.fields keys := by simp [Record.fields, given]
      have taken : d.putAll r (key :: keys) = (d.put r key).putAll r keys := by simp [Draft.putAll, given]
      rw [written] at enough ⊢
      simp only [Json.writeMembers, List.length_cons, List.length_append] at enough
      obtain ⟨fuel, rfl⟩ : ∃ less, fuel = less + 1 := ⟨fuel - 1, by omega⟩
      have field := readField_write h d given (Json.afterNumber_writeMembers (r.fields keys) rest)
      have others : ∀ k ∈ keys, (d.put r key).has k = false := by
        intro k hk
        have hne : k ≠ key := by
          rintro rfl
          exact new hk
        rw [Draft.has_put r d key k hne, fresh' k hk]
      simp only [Json.writeMembers, List.cons_append, List.append_assoc, Json.writeText_append]
      rw [readMembers_step (Json.nextName_comma _) (fresh key (List.mem_cons_self ..)) field, taken,
        ih (d.put r key) fuel distinct others (by omega)]

/-- a draft with everything that a record's text gives is the record, without a null -/
theorem finished_putAll (r : Record) : finished (Draft.blank.putAll r Key.all) = .ok r.withoutNull := by
  obtain ⟨timestamp, category, source, action, outcome, objectId, objectType, details, error, correlationId⟩ := r
  cases objectId <;> cases objectType <;> cases details <;> cases error <;> cases correlationId <;> rfl

theorem Record.write_eq (r : Record) : r.write
    = '\x7b' :: '"' :: (Key.timestamp.name.toList.flatMap Json.escapeChar ++ '"' :: ':' ::
        (Json.write (.text r.timestamp.render) ++ Json.writeMembers (r.fields Key.all.tail))) := by
  rw [Record.write, members_eq_cons]
  simp only [Json.write, List.cons_append, List.append_assoc, Json.writeText_append]
  rfl

theorem read_render {r : Record} (h : r.Portable) : Record.read r.render = .ok r.withoutNull := by
  have distinct : Key.all.tail.Nodup := by decide
  have others : ∀ key ∈ Key.all.tail, (Draft.blank.put r .timestamp).has key = false := by
    intro key hk
    cases key <;> first | rfl | exact absurd hk (by decide)
  have given : r.value? .timestamp = some (.text r.timestamp.render) := rfl
  have field := readField_write h Draft.blank given (Json.afterNumber_writeMembers (r.fields Key.all.tail) [])
  have tail := fun fuel => readMembers_writeFields h Key.all.tail (Draft.blank.put r .timestamp) fuel [] distinct others
  rw [List.append_nil] at field tail
  have deep : Json.deeper Json.depthLimit = .ok 127 := rfl
  have brace (cs : List Char) : Json.skipBlanks ('\x7b' :: cs) = '\x7b' :: cs := Json.skipBlanks_cons cs rfl
  simp only [Record.read, Record.render, String.toList_ofList, Record.write_eq, brace, deep, bind,
    Except.bind]
  rw [readMembers_step (Json.nextName_first _) rfl field, tail _ ?_]
  · simp only
    rw [show (Draft.blank.put r .timestamp).putAll r Key.all.tail = Draft.blank.putAll r Key.all from rfl,
      finished_putAll]
    rfl
  · simp only [List.length_cons, List.length_append]
    omega

/-! ## Records that are null inside -/

theorem Record.withoutNull_eq_self {r : Record} (h : r.details ≠ some .null) : r.withoutNull = r := by
  have kept : r.details.filter (fun d => !d.isNull) = r.details := by
    match hd : r.details with
    | none => rfl
    | some d =>
      have present : d.isNull = false := by
        cases d <;> first | rfl | exact absurd hd h
      simp only [Option.filter_some, present, Bool.not_false, ↓reduceIte]
  rw [withoutNull, kept]

theorem length_writeMembers_lt (before after : List (String × Json)) (m : String × Json) :
    (Json.writeMembers (before ++ after)).length < (Json.writeMembers (before ++ m :: after)).length := by
  induction before with
  | nil =>
    simp only [List.nil_append, Json.writeMembers, List.length_cons, List.length_append]
    omega
  | cons n before ih =>
    simp only [List.cons_append, Json.writeMembers, List.length_cons, List.length_append]
    omega

/-- without the null the text is another one -/
theorem Record.render_withoutNull_ne {r : Record} (h : r.details = some .null) : r.withoutNull.render ≠ r.render := by
  let before : List Key := [.category, .source, .action, .outcome, .objectId, .objectType]
  let after : List Key := [.error, .correlationId]
  have keys : Key.all.tail = before ++ .details :: after := rfl
  have here : r.fields Key.all.tail = r.fields before ++ ("details", .null) :: r.fields after := by
    rw [keys, fields_append]
    simp [fields, value?, h, Key.name]
  have gone : r.withoutNull.fields Key.all.tail = r.fields before ++ r.fields after := by
    rw [keys, fields_append, fields_withoutNull before (by decide), ← fields_withoutNull after (by decide)]
    simp [fields, value?, h, withoutNull, Json.isNull]
  have longer := length_writeMembers_lt (r.fields before) (r.fields after) ("details", .null)
  have shorter : r.withoutNull.write.length < r.write.length := by
    rw [write_eq, write_eq, here, gone]
    simp only [List.length_cons, List.length_append, withoutNull]
    omega
  intro same
  have texts : r.withoutNull.write = r.write := by
    have := congrArg String.toList same
    rwa [Record.render, Record.render, String.toList_ofList, String.toList_ofList] at this
  rw [texts] at shorter
  exact Nat.lt_irrefl _ shorter

theorem Record.render_withoutNull (r : Record) : r.withoutNull.render = r.render ↔ r.details ≠ some .null := by
  refine ⟨fun same null => render_withoutNull_ne null same, fun h => ?_⟩
  rw [withoutNull_eq_self h]

theorem Record.withoutNull_eq_self_iff (r : Record) : r.withoutNull = r ↔ r.details ≠ some .null := by
  refine ⟨fun same null => ?_, withoutNull_eq_self⟩
  exact render_withoutNull_ne null (congrArg render same)

/-! ## Plain records -/

/-- a record with details that come back from their text as they are -/
structure Record.Plain (r : Record) : Prop where
  present : r.details ≠ some .null
  kept : ∀ d ∈ r.details, Json.Kept d
  shallow : ∀ d ∈ r.details, d.nesting ≤ 126

namespace Record

theorem plain_of_none {r : Record} (h : r.details = none) : r.Plain := by
  refine ⟨?_, ?_, ?_⟩ <;> rw [h] <;> exact nofun

/-- details that are built from members, which do not nest as deep as the reader goes -/
theorem plain_of_members {r : Record} {members : List (String × Json)} (h : r.details = some (.ofMembers members))
    (inside : ∀ m ∈ members, Json.Kept m.2 ∧ m.2.nesting ≤ 125) : r.Plain := by
  have kept := Json.kept_ofMembers fun m hm => (inside m hm).1
  have shallow := Json.nesting_ofMembers_le fun m hm => (inside m hm).2
  refine ⟨?_, fun d hd => ?_, fun d hd => ?_⟩
  · rw [h]
    exact nofun
  · cases h.symm.trans hd
    exact kept
  · cases h.symm.trans hd
    exact shallow

theorem plain_of_leaves {r : Record} {members : List (String × Json)} (h : r.details = some (.ofMembers members))
    (leaves : ∀ m ∈ members, m.2.isLeaf = true) : r.Plain :=
  plain_of_members h fun m hm => Json.shallow_of_isLeaf (leaves m hm) 125

/-- a plain record of a common year is portable -/
theorem Plain.portable {r : Record} (h : r.Plain) (common : 0 ≤ r.timestamp.date.year ∧ r.timestamp.date.year ≤ 9999) :
    r.Portable := by
  refine ⟨common, h.kept, Nat.succ_le_succ (Json.nestingMembers_le fun m hm => ?_)⟩
  rw [members_eq] at hm
  obtain ⟨key, -, given⟩ := List.mem_filterMap.1 hm
  obtain ⟨v, value, rfl⟩ := Option.map_eq_some_iff.1 given
  cases key with
  | timestamp | category | source | action | outcome =>
    cases value
    exact Nat.zero_le 126
  | details => exact h.shallow v value
  | objectId | objectType | error | correlationId =>
    obtain ⟨s, -, rfl⟩ := Option.map_eq_some_iff.1 value
    exact Nat.zero_le 126

/-- and its text gives it back -/
theorem Plain.read_render {r : Record} (h : r.Plain)
    (common : 0 ≤ r.timestamp.date.year ∧ r.timestamp.date.year ≤ 9999) : Record.read r.render = .ok r := by
  rw [Audit.read_render (h.portable common), withoutNull_eq_self h.present]

end Record

/-! ## Records and their texts -/

/-- a record is always written: its text never begins like the one that stands for a failure -/
theorem Record.render_ne_unwritable (r : Record) (message : String) : r.render ≠ unwritable message := by
  obtain ⟨rest, written⟩ : ∃ rest, r.render.toList = '\x7b' :: '"' :: 't' :: rest := by
    rw [render, String.toList_ofList, write_eq]
    exact ⟨_, rfl⟩
  obtain ⟨rest', failed⟩ : ∃ rest, (unwritable message).toList = '\x7b' :: '"' :: 'e' :: rest := by
    unfold unwritable
    rw [String.toList_append, String.toList_append]
    simp
  intro same
  rw [same, failed] at written
  simp at written

theorem Record.render_inj {r other : Record} (h : r.Portable) (ho : other.Portable) :
    r.render = other.render ↔ r = other := by
  refine ⟨fun same => ?_, fun same => congrArg render same⟩
  have back : r.withoutNull = other.withoutNull := by
    have read := read_render h
    rw [same, read_render ho] at read
    exact (Except.ok.inj read).symm
  by_cases null : r.details = some .null
  · by_cases null' : other.details = some .null
    · -- both were null, and everything else came back
      have details : r.details = other.details := null.trans null'.symm
      obtain ⟨timestamp, category, source, action, outcome, objectId, objectType, _, error, correlationId⟩ := r
      obtain ⟨timestamp', category', source', action', outcome', objectId', objectType', _, error', correlationId'⟩ := other
      simp only [withoutNull, mk.injEq] at back details ⊢
      simp only [back, details, and_self]
    · rw [withoutNull_eq_self null'] at back
      rw [← back] at same
      exact absurd same.symm (render_withoutNull_ne null)
  · by_cases null' : other.details = some .null
    · rw [withoutNull_eq_self null] at back
      rw [back] at same
      exact absurd same (render_withoutNull_ne null')
    · rw [← withoutNull_eq_self null, back, withoutNull_eq_self null']

/-- a record comes back from its text, except that details that are null come back as missing; with that, different
records have different texts -/
theorem record_survives {r : Record} (h : r.Portable) :
    (∀ message, r.render ≠ Record.unwritable message) ∧
    Record.read r.render = .ok r.withoutNull ∧
    (r.withoutNull = r ↔ r.details ≠ some .null) ∧
    ((Record.read r.render).map Record.render = .ok r.render ↔ r.details ≠ some .null) ∧
    ∀ other : Record, other.Portable → (r.render = other.render ↔ r = other) := by
  refine ⟨r.render_ne_unwritable, read_render h, r.withoutNull_eq_self_iff, ?_, fun other ho => Record.render_inj h ho⟩
  rw [read_render h, ← r.render_withoutNull, Except.map, Except.ok.injEq]

/-- a leap second, control characters, and details two levels deep -/
theorem record_survives_nested :
    let r : Record := {
      timestamp := ⟨⟨2024, 2, 29, by decide⟩, 23, 59, 60, 1500, by decide⟩
      category := .balOperation, source := "a\"\\\n\x01ü", action := "", outcome := .partly
      objectId := some "\x7f", objectType := none, error := none, correlationId := some ""
      details := some (.object [("", .array [.null, .number (.negative 0)]), ("\t", .text "/")]) }
    r.Portable ∧ Record.read r.render = .ok r := by
  intro r
  have portable : r.Portable := by
    refine ⟨by decide, ?_, by decide⟩
    rintro d hd
    cases hd
    exact ⟨by decide, by decide⟩
  obtain ⟨-, back, same, -, -⟩ := record_survives portable
  refine ⟨portable, ?_⟩
  rw [back, same.2 (by simp [r])]

end LineTerminal.Audit
