/-
The event of a record, and the record that it carries.

An event says the main fields of its record twice: flat, and in the JSON text of the whole record. The two are made apart from
each other, so `Announces` compares them, for every record:
- the text is that of an object in which no name comes twice (`nodup_members`), and from it every text can be read as it was,
  whatever characters it holds (`exists_readText`);
- each flat field is the text of the member with its name (`member?_members`), and empty where the member is left out;
- the outcome alone is said in two words, and they differ exactly when the action is in progress.

`stream` has the events of a log that are on the target of the audit trail. In a log whose other lines keep off that target
there is one for each record, in their order (`stream_eq`). These are the events as they are announced, in front of the
filter of a run (`Filter.passes`) and of any ceiling that a build sets for the levels. Either of them may hold an event back,
but only by the level of its record (`exists_allowed`), and it adds none (`stream_filter`).
-/
import Mathlib.Data.List.Nodup
import LineTerminal.Log.Entry
import LineTerminal.Log.Filter
import LineTerminal.Proofs.Audit.RoundTrip

namespace LineTerminal

/-! ## What an event says -/

namespace Log

def Value.text? : Value → Option String
  | .shown text => some text
  | .literal text => some text
  | _ => none

def Line.text? (l : Line) (name : String) : Option String := (l.field? name).bind (·.text?)

/-- the events on the target of the audit trail, before any of them is filtered out -/
def stream (log : List Entry) : List Line := (log.map (·.event)).filter (·.target == .audit)

/-- the lines of a log keep off that target -/
def Apart (log : List Entry) : Prop := ∀ l, .line l ∈ log → l.target ≠ .audit

@[simp] theorem apart_nil : Apart [] := nofun

@[simp] theorem apart_line {l : Line} {log : List Entry} : Apart (.line l :: log) ↔ l.target ≠ .audit ∧ Apart log := by
  simp [Apart, or_imp, forall_and]

@[simp] theorem apart_audit {r : Audit.Record} {log : List Entry} : Apart (.audit r :: log) ↔ Apart log := by
  simp [Apart]

@[simp] theorem apart_append {log more : List Entry} : Apart (log ++ more) ↔ Apart log ∧ Apart more := by
  simp [Apart, or_imp, forall_and]

@[simp] theorem apart_lines {lines : List Line} : Apart (lines.map .line) ↔ ∀ l ∈ lines, l.target ≠ .audit := by
  simp [Apart]

/-- a line of another part of the program -/
theorem apart_of {level : Level} {target : Target} {source message : String} {fields : List (String × Value)}
    {log : List Entry} (other : target ≠ .audit) :
    Apart (.line (.of level target source message fields) :: log) ↔ Apart log := by
  simp [Line.of, other]

/-- **One event for each record**, if the other lines keep off their target -/
theorem stream_eq {log : List Entry} (apart : Apart log) : stream log = (records log).map (·.event) := by
  induction log with
  | nil => rfl
  | cons e log ih =>
    cases e with
    | line l =>
      obtain ⟨off, apart⟩ := apart_line.1 apart
      have passed : (l.target == .audit) = false := beq_eq_false_iff_ne.2 off
      rw [records_line, ← ih apart]
      simp [stream, Entry.event, passed]
    | audit r =>
      rw [records_audit, List.map_cons, ← ih (apart_audit.1 apart)]
      simp [stream, Entry.event, Audit.Record.event]

theorem stream_filter (pass : Line → Bool) (log : List Entry) :
    stream (log.filter (fun e => pass e.event)) = (stream log).filter pass := by
  have events : (log.filter (fun e => pass e.event)).map (·.event) = (log.map (·.event)).filter pass :=
    List.filter_map.symm
  rw [stream, stream, events, List.filter_comm]

end Log

/-! ## What an object says -/

namespace Json

/-- the text of a member; one that is left out says nothing -/
def flatText? (name : String) (j : Json) : Option String :=
  match j.member? name with
  | none => some ""
  | some (.text s) => some s
  | some _ => none

theorem exists_writeMembers {name : String} {value : Json} {members : List (String × Json)}
    (h : (name, value) ∈ members) : ∃ before after,
      writeMembers members = before ++ (writeText name ++ ':' :: (write value ++ after)) := by
  induction members with
  | nil => cases h
  | cons m members ih =>
    rcases List.mem_cons.1 h with rfl | h
    · refine ⟨[','], writeMembers members, ?_⟩
      simp [writeMembers]
    · obtain ⟨before, after, rest⟩ := ih h
      refine ⟨',' :: writeText m.1 ++ ':' :: write m.2 ++ before, after, ?_⟩
      simp [writeMembers, rest]

theorem exists_write {name : String} {value : Json} {members : List (String × Json)} (h : (name, value) ∈ members) :
    ∃ before after, write (.object members) = before ++ (writeText name ++ ':' :: (write value ++ after)) := by
  cases members with
  | nil => cases h
  | cons m members =>
    rcases List.mem_cons.1 h with rfl | h
    · refine ⟨['\x7b'], writeMembers members, ?_⟩
      simp [write]
    · obtain ⟨before, after, rest⟩ := exists_writeMembers h
      refine ⟨'\x7b' :: writeText m.1 ++ ':' :: write m.2 ++ before, after, ?_⟩
      simp [write, rest]

/-- from the text of an object, the text of a member can be read as it was, behind its name -/
theorem exists_readText {name text : String} {members : List (String × Json)} (h : (name, .text text) ∈ members) :
    ∃ before value after, write (.object members) = before ++ (writeText name ++ ':' :: '"' :: value) ∧
      readText value = .ok (text, after) := by
  obtain ⟨before, after, written⟩ := exists_write h
  refine ⟨before, text.toList.flatMap escapeChar ++ '"' :: after, after, ?_, readText_writeText text after⟩
  rw [written, write, writeText_append text after]

end Json

/-! ## The object of a record -/

namespace Audit

theorem Key.name_injective {key other : Key} (h : key.name = other.name) : key = other := by
  have named := Key.named?_name key
  rw [h, Key.named?_name] at named
  exact (Option.some.inj named).symm

namespace Record

theorem map_name_fields (r : Record) (keys : List Key) :
    (r.fields keys).map (·.1) = (keys.filter (fun key => (r.value? key).isSome)).map Key.name := by
  induction keys with
  | nil => rfl
  | cons key keys ih =>
    cases given : r.value? key with
    | none => simpa [fields, given] using ih
    | some v => simpa [fields, given] using ih

theorem nodup_members (r : Record) : (r.members.map (·.1)).Nodup := by
  have all : Key.all.Nodup := by decide
  have injective : Function.Injective Key.name := fun _ _ => Key.name_injective
  rw [members_eq, map_name_fields]
  exact List.Nodup.map injective (all.filter _)

theorem find?_fields (r : Record) (key : Key) (keys : List Key) :
    (r.fields keys).find? (·.1 == key.name) = if key ∈ keys then (r.value? key).map (fun v => (key.name, v)) else none := by
  induction keys with
  | nil => rfl
  | cons k keys ih =>
    by_cases same : k = key
    · subst same
      cases given : r.value? k with
      | none =>
        rw [given] at ih
        simpa [fields, given] using ih
      | some v => simp [fields, given]
    · have passed : (k.name == key.name) = false := beq_eq_false_iff_ne.2 fun h => same (Key.name_injective h)
      cases given : r.value? k with
      | none => simpa [fields, given, Ne.symm same] using ih
      | some v => simpa [fields, given, passed, Ne.symm same] using ih

/-- **The object of a record has the value of each field under its name.** -/
theorem member?_members (r : Record) (key : Key) : (Json.object r.members).member? key.name = r.value? key := by
  have all : key ∈ Key.all := by cases key <;> decide
  rw [Json.member?, members_eq, find?_fields, if_pos all, Option.map_map]
  exact Option.map_id' ..

end Record

/-! ## The event and the object -/

/-- the flat fields that repeat a member -/
def flatFields : List String := ["category", "source", "action", "outcome", "object_id", "error"]

theorem mem_flatFields {name : String} : name ∈ flatFields ↔
    name = "category" ∨ name = "source" ∨ name = "action" ∨ name = "outcome" ∨ name = "object_id" ∨ name = "error" := by
  simp [flatFields]

/-- an event that says of a record what its object says -/
structure Announces (r : Record) (l : Log.Line) : Prop where
  target : l.target = .audit
  /-- it carries the text of the object -/
  carried : l.text? "audit_json" = some (Json.object r.members).render
  distinct : (r.members.map (·.1)).Nodup
  /-- what is written there can be read as it was -/
  legible : ∀ name text, (name, .text text) ∈ r.members → ∃ before value after,
    (Json.object r.members).render.toList = before ++ (Json.writeText name ++ ':' :: '"' :: value) ∧
      Json.readText value = .ok (text, after)
  /-- **the flat fields repeat the members**, except the outcome of an action that is in progress -/
  agree : ∀ name ∈ flatFields, (l.text? name = (Json.object r.members).flatText? name ↔
    ¬ (name = "outcome" ∧ r.outcome = .inProgress))
  /-- every flat field has a text -/
  told : ∀ name ∈ flatFields, (l.text? name).isSome = true
  /-- only these members may be left out -/
  missing : ∀ name ∈ flatFields, (Json.object r.members).member? name = none → name = "object_id" ∨ name = "error"

/-- the two words for an outcome differ only for an action in progress -/
theorem Outcome.shown_eq_name_iff (o : Outcome) : o.shown = o.name ↔ o ≠ .inProgress := by cases o <;> decide

/-- what the event of a record says in its flat fields -/
theorem Record.event_text? (r : Record) :
    r.event.text? "category" = some r.category.name ∧ r.event.text? "source" = some r.source ∧
    r.event.text? "action" = some r.action ∧ r.event.text? "outcome" = some r.outcome.shown ∧
    r.event.text? "object_id" = some (r.objectId.getD "") ∧ r.event.text? "error" = some (r.error.getD "") ∧
    r.event.text? "audit_json" = some (Json.object r.members).render := by
  refine ⟨?_, ?_, ?_, ?_, ?_, ?_, ?_⟩ <;> rfl

/-- **A filter looks at the level of a record only**, as all events have the same target and fields of the same names -/
theorem exists_allowed (f : Log.Filter) :
    ∃ allowed : Log.Level → Bool, ∀ r : Record, f.passes r.event = allowed r.outcome.level := by
  let names := flatFields ++ ["audit_json"]
  let blank (level : Log.Level) : Log.Line := ⟨level, .audit, "", names.map (·, .literal "")⟩
  refine ⟨fun level => f.passes (blank level), fun r => ?_⟩
  have same : r.event.fields.map (·.1) = (blank r.outcome.level).fields.map (·.1) := rfl
  exact f.passes_congr rfl rfl same

/-- a text that may be missing, as a member says it -/
theorem flatText?_of_member {j : Json} {name : String} (text : Option String)
    (h : j.member? name = text.map .text) : j.flatText? name = some (text.getD "") := by
  rw [Json.flatText?, h]
  cases text <;> rfl

/-- what the object of a record says in the same members -/
theorem Record.object_flatText? (r : Record) :
    let j := Json.object r.members
    j.flatText? "category" = some r.category.name ∧ j.flatText? "source" = some r.source ∧
    j.flatText? "action" = some r.action ∧ j.flatText? "outcome" = some r.outcome.name ∧
    j.flatText? "object_id" = some (r.objectId.getD "") ∧ j.flatText? "error" = some (r.error.getD "") :=
  have member := r.member?_members
  ⟨flatText?_of_member (some r.category.name) (member .category),
   flatText?_of_member (some r.source) (member .source),
   flatText?_of_member (some r.action) (member .action),
   flatText?_of_member (some r.outcome.name) (member .outcome),
   flatText?_of_member r.objectId (member .objectId),
   flatText?_of_member r.error (member .error)⟩

/-- **The event of a record announces it**, whatever the record is. -/
theorem Record.announces (r : Record) : Announces r r.event := by
  obtain ⟨category, source, action, outcome, objectId, error, carried⟩ := r.event_text?
  obtain ⟨category', source', action', outcome', objectId', error'⟩ := r.object_flatText?
  have there (key : Key) (given : (r.value? key).isSome) : (Json.object r.members).member? key.name ≠ none := by
    rw [r.member?_members]
    exact Option.isSome_iff_ne_none.1 given
  refine ⟨rfl, carried, r.nodup_members, fun name text h => ?_, fun name h => ?_, fun name h => ?_, fun name h => ?_⟩
  · obtain ⟨before, value, after, written, read⟩ := Json.exists_readText h
    exact ⟨before, value, after, by rw [Json.render, String.toList_ofList, written], read⟩
  · rcases mem_flatFields.1 h with rfl | rfl | rfl | rfl | rfl | rfl
    · simp [category, category']
    · simp [source, source']
    · simp [action, action']
    · -- the one field with a word of its own
      rw [outcome, outcome', Option.some.injEq, Outcome.shown_eq_name_iff]
      simp
    · simp [objectId, objectId']
    · simp [error, error']
  · rcases mem_flatFields.1 h with rfl | rfl | rfl | rfl | rfl | rfl <;> simp [*]
  · rcases mem_flatFields.1 h with rfl | rfl | rfl | rfl | rfl | rfl
    · exact fun absent => absurd absent (there .category rfl)
    · exact fun absent => absurd absent (there .source rfl)
    · exact fun absent => absurd absent (there .action rfl)
    · exact fun absent => absurd absent (there .outcome rfl)
    · exact fun _ => .inl rfl
    · exact fun _ => .inr rfl

end Audit

end LineTerminal
