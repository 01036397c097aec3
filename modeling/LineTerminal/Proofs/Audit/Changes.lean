/-
What is left of the changes that complete a record.

Each change writes the field that it is named for, and an error also writes the outcome (`Change.write?`). No change writes the
time, the category, the source or the action that a record is started with.
- `get_change`, `get_changes`: after one change, and after any, each field holds what the last change that writes it has
  written there, or what it held before;
- `changes_congr`: so records agree after any two lists of changes whose last writes agree;
- `change_comm_iff`: two changes may be made in either order exactly when they write nothing different to one field;
- `agrees_of_not_clashes`: that is so unless they are named for one field, or one is an outcome and the other an error;
- `changes_swap`, `changes_perm`: then they may be swapped wherever they are neighbours, and changes of which no two clash may
  be made in any order.

`last_change_wins` puts that together.
-/
import Mathlib.Data.List.Induction
import LineTerminal.Audit.Reader

namespace LineTerminal.Audit

open Time (Timestamp)

/-! ## Fields -/

def Key.Value : Key → Type
  | timestamp => Timestamp
  | category => Category
  | source | action => String
  | outcome => Outcome
  | details => Option Json
  | objectId | objectType | error | correlationId => Option String

def Record.get (r : Record) : (key : Key) → key.Value
  | .timestamp => r.timestamp
  | .category => r.category
  | .source => r.source
  | .action => r.action
  | .outcome => r.outcome
  | .objectId => r.objectId
  | .objectType => r.objectType
  | .details => r.details
  | .error => r.error
  | .correlationId => r.correlationId

/-- a record is what its fields hold -/
theorem Record.eq_of_get {r s : Record} (same : ∀ key, r.get key = s.get key) : r = s := by
  cases r
  cases s
  rw [mk.injEq]
  exact ⟨same .timestamp, same .category, same .source, same .action, same .outcome, same .objectId, same .objectType,
    same .details, same .error, same .correlationId⟩

namespace Change

/-- the field that a change is named for -/
def key : Change → Key
  | outcome _ => .outcome
  | objectId _ => .objectId
  | objectType _ => .objectType
  | details _ => .details
  | error _ => .error
  | correlationId _ => .correlationId

/-- what a change writes to a field, if it writes it -/
def write? : Change → (key : Key) → Option key.Value
  | outcome o, .outcome => some o
  | objectId id, .objectId => some (some id)
  | objectType kind, .objectType => some (some kind)
  | details d, .details => some (some d)
  | error text, .error => some (some text)
  -- an error is a failure as well
  | error _, .outcome => some .failure
  | correlationId id, .correlationId => some id
  | _, _ => none

theorem isSome_write? (c : Change) (key : Key) :
    (c.write? key).isSome = decide (key = c.key ∨ key = .outcome ∧ c.key = .error) := by
  cases c <;> cases key <;> rfl

theorem written_of_write? {c : Change} {key : Key} {v : key.Value} (h : c.write? key = some v) :
    key = c.key ∨ key = .outcome ∧ c.key = .error := by
  have writes := c.isSome_write? key
  rw [h] at writes
  exact of_decide_eq_true writes.symm

/-- two changes that write nothing different to one field -/
def Agrees (a b : Change) : Prop := ∀ key v w, a.write? key = some v → b.write? key = some w → v = w

/-- two changes that are named for one field, or an outcome and an error -/
def Clashes (a b : Change) : Prop :=
  a.key = b.key ∨ a.key = .outcome ∧ b.key = .error ∨ a.key = .error ∧ b.key = .outcome

theorem Clashes.symm {a b : Change} (h : a.Clashes b) : b.Clashes a := by
  rcases h with same | ⟨outcome, error⟩ | ⟨error, outcome⟩
  · exact .inl same.symm
  · exact .inr (.inr ⟨error, outcome⟩)
  · exact .inr (.inl ⟨outcome, error⟩)

theorem agrees_of_not_clashes {a b : Change} (apart : ¬ a.Clashes b) : a.Agrees b := by
  intro key v w first second
  apply absurd _ apart
  rcases written_of_write? first with own | ⟨outcome, error⟩
  · rcases written_of_write? second with own' | ⟨outcome', error'⟩
    · exact .inl (own.symm.trans own')
    · exact .inr (.inl ⟨own.symm.trans outcome', error'⟩)
  · rcases written_of_write? second with own' | ⟨outcome', error'⟩
    · exact .inr (.inr ⟨error, own'.symm.trans outcome⟩)
    · exact .inl (error.trans error'.symm)

/-- what changes have written last to a field -/
def last? (cs : List Change) (key : Key) : Option key.Value := (cs.filterMap (·.write? key)).getLast?

theorem last?_append (cs more : List Change) (key : Key) :
    last? (cs ++ more) key = (last? more key).or (last? cs key) := by
  rw [last?, List.filterMap_append, List.getLast?_append]
  rfl

theorem last?_singleton (c : Change) (key : Key) : last? [c] key = c.write? key := by
  cases h : c.write? key <;> simp [last?, h]

/-- changes that agree may be swapped without a difference to what is written last -/
theorem last?_swap {a b : Change} (agree : a.Agrees b) (before after : List Change) (key : Key) :
    last? (before ++ b :: a :: after) key = last? (before ++ a :: b :: after) key := by
  have split (x y : Change) : last? (before ++ x :: y :: after) key
      = (last? after key).or ((y.write? key).or ((x.write? key).or (last? before key))) := by
    rw [show before ++ x :: y :: after = before ++ [x] ++ [y] ++ after by simp]
    rw [last?_append, last?_append, last?_append, last?_singleton, last?_singleton]
  rw [split, split]
  congr 1
  cases first : a.write? key with
  | none => rfl
  | some v =>
    cases second : b.write? key with
    | none => rfl
    | some w => rw [agree key v w first second]

end Change

namespace Record

open Change (last?)

/-! ## One change -/

theorem get_change (r : Record) (c : Change) (key : Key) :
    (r.change c).get key = (c.write? key).getD (r.get key) := by
  cases c <;> cases key <;> rfl

/-- **Two changes commute exactly when they agree**, whatever the record -/
theorem change_comm_iff (r : Record) (a b : Change) :
    (r.change a).change b = (r.change b).change a ↔ a.Agrees b := by
  have twice (x y : Change) (key : Key) :
      ((r.change x).change y).get key = (y.write? key).getD ((x.write? key).getD (r.get key)) := by
    rw [get_change, get_change]
  constructor
  · intro same key v w first second
    have field : ((r.change a).change b).get key = ((r.change b).change a).get key := by rw [same]
    rw [twice, twice, first, second] at field
    exact field.symm
  · intro agree
    apply eq_of_get
    intro key
    rw [twice, twice]
    cases first : a.write? key with
    | none => rfl
    | some v =>
      cases second : b.write? key with
      | none => rfl
      | some w => exact (agree key v w first second).symm

/-! ## Any changes -/

theorem changes_append (r : Record) (cs more : List Change) : r.changes (cs ++ more) = (r.changes cs).changes more :=
  List.foldl_append

/-- **The last write wins, field by field.** -/
theorem get_changes (r : Record) (cs : List Change) (key : Key) :
    (r.changes cs).get key = (last? cs key).getD (r.get key) := by
  induction cs using List.reverseRecOn with
  | nil => rfl
  | append_singleton cs c ih =>
    calc (r.changes (cs ++ [c])).get key
      _ = ((r.changes cs).change c).get key := by rw [changes_append]; rfl
      _ = (c.write? key).getD ((last? cs key).getD (r.get key)) := by rw [get_change, ih]
      _ = (last? (cs ++ [c]) key).getD (r.get key) := by
        rw [Change.last?_append, Change.last?_singleton, Option.getD_or]

/-- nothing counts but the last writes -/
theorem changes_congr {cs ds : List Change} (same : ∀ key, last? cs key = last? ds key) (r : Record) :
    r.changes cs = r.changes ds := by
  apply eq_of_get
  intro key
  rw [get_changes, get_changes, same]

/-- **Neighbours that do not clash may be swapped.** -/
theorem changes_swap {a b : Change} (apart : ¬ a.Clashes b) (r : Record) (before after : List Change) :
    r.changes (before ++ b :: a :: after) = r.changes (before ++ a :: b :: after) :=
  changes_congr (Change.last?_swap (Change.agrees_of_not_clashes apart) before after) r

/-- changes of which no two clash may be made in any order -/
theorem changes_perm {cs ds : List Change} (p : cs.Perm ds) (apart : cs.Pairwise fun a b => ¬ a.Clashes b)
    (r : Record) : r.changes ds = r.changes cs := by
  induction p generalizing r with
  | nil => rfl
  | cons c _ ih => exact ih (List.pairwise_cons.1 apart).2 (r.change c)
  | swap a b cs =>
    have clash : ¬ b.Clashes a := (List.pairwise_cons.1 apart).1 a List.mem_cons_self
    exact changes_swap clash r [] cs
  | trans p _ ih ih' =>
    have symmetric : ∀ {a b : Change}, ¬ a.Clashes b → ¬ b.Clashes a := fun h clash => h clash.symm
    exact (ih' (p.pairwise apart symmetric) r).trans (ih apart r)

/-! ## Main result -/

/-- **The last change of a field wins.** After any changes of any record:
- each field holds what the last change that writes it has written there, and what it held before if there is none. So an error
  makes the outcome a failure unless an outcome comes after it, and a missing correlation id clears the field;
- the time, the category, the source and the action are those from the beginning;
- two neighbours may be swapped without a difference, unless they are named for one field or are an outcome and an error;
- so changes of which no two clash may come in any order.
At the end of the changes no others may be swapped than those that write nothing different to one field. -/
theorem last_change_wins (r : Record) (cs : List Change) :
    let r' := r.changes cs
    (∀ key, r'.get key = ((cs.filterMap (·.write? key)).getLast?).getD (r.get key)) ∧
    (r'.timestamp = r.timestamp ∧ r'.category = r.category ∧ r'.source = r.source ∧ r'.action = r.action) ∧
    (∀ before a b after, cs = before ++ a :: b :: after → ¬ a.Clashes b → r.changes (before ++ b :: a :: after) = r') ∧
    (∀ ds, cs.Perm ds → cs.Pairwise (fun a b => ¬ a.Clashes b) → r.changes ds = r') ∧
    ∀ a b, r'.changes [a, b] = r'.changes [b, a] ↔ a.Agrees b := by
  intro r'
  have started (key : Key) (kept : ∀ c : Change, c.write? key = none) : r'.get key = r.get key := by
    have unwritten : last? cs key = none := by simp [last?, kept]
    rw [get_changes, unwritten, Option.getD_none]
  refine ⟨r.get_changes cs, ⟨?_, ?_, ?_, ?_⟩, ?_, fun ds p apart => changes_perm p apart r, r'.change_comm_iff⟩
  · exact started .timestamp fun c => by cases c <;> rfl
  · exact started .category fun c => by cases c <;> rfl
  · exact started .source fun c => by cases c <;> rfl
  · exact started .action fun c => by cases c <;> rfl
  · rintro before a b after rfl apart
    exact changes_swap apart r before after

/-- an outcome and an error may not be swapped -/
example :
    let r := start .epoch .balOperation "OltOrch" "cfg_get"
    (r.changes [.error "timeout", .outcome .partly]).outcome = .partly ∧
    (r.changes [.outcome .partly, .error "timeout"]).outcome = .failure :=
  ⟨rfl, rfl⟩

end Record

end LineTerminal.Audit
