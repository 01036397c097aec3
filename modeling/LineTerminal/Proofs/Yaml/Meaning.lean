/-
What the nodes of a YAML document mean.

`Means` relates a node to a value: a plain scalar means the truth value or the whole number that it stands for, any scalar
means its text, and a mapping means an object with the texts of its keys and what its values mean, in the same order; a
tag may only confirm that. An alias means what the node means for which it stands, at a key as well as at a value. `reads`
shows that documents are read as what they mean, whatever the styles, tags, anchors and aliases are.
-/
import LineTerminal.Proofs.Schema.Records
import LineTerminal.Yaml.Source

namespace LineTerminal.Yaml

open Schema

def Scalar.strTag : String := "tag:yaml.org,2002:str"

namespace Located

def text? (v : Located) : Option String :=
  match v.target with
  | some (.scalar _ _ t) => some t
  | _ => none

/-- the member of a mapping that an entry gives -/
def member (v : Located) (entry : Node × Node) : Option String × Located :=
  let key : Located := ⟨v.document, v.path, some entry.1⟩
  (key.text?, ⟨v.document, v.path ++ [if key.isAlias then none else key.text?], some entry.2⟩)

def members? (v : Located) : Option (Members Located) :=
  match v.target with
  | some (.mapping _ entries) => some (entries.map v.member)
  | _ => none

inductive Means : Located → Json → Prop
  | text {v : Located} {tag : Option String} {style : Style} {t : String}
      (found : v.target = some (.scalar tag style t)) (fits : tag = none ∨ tag = some Scalar.strTag) :
      Means v (.text t)
  | natural {v : Located} {tag : Option String} {t : String} {n : UInt64}
      (found : v.target = some (.scalar tag .plain t)) (fits : tag = none ∨ tag = some Scalar.intTag)
      (stands : Scalar.natural? t = some n.toNat) : Means v (.number (.natural n))
  | flag {v : Located} {tag : Option String} {t : String} {b : Bool}
      (found : v.target = some (.scalar tag .plain t)) (fits : tag = none ∨ tag = some Scalar.boolTag)
      (stands : Scalar.flag? t = some b) : Means v (.bool b)
  | mapping {v : Located} {ms : Members Located} {js : List (String × Json)} (found : v.members? = some ms)
      (keys : ms.map Prod.fst = js.map (fun m => some m.1))
      (values : List.Forall₂ Means (ms.map Prod.snd) (js.map Prod.snd)) : Means v (.object js)

/-! ## Records -/

variable {α : Type} {fields : List (Field Located Fault α)}

theorem unexpected_ne_ok (v : Located) (expected : String) (a : α) : v.unexpected expected ≠ .ok a := by
  unfold unexpected
  split
  · exact nofun
  · rename_i tag style t _
    cases v.check (Scalar.seen tag style t) <;> exact nofun
  all_goals exact nofun

theorem text_eq_ok_iff {v : Located} {expected t : String} : v.text expected = .ok t ↔ v.text? = some t := by
  unfold text text?
  cases v.target with
  | none => simp [unexpected_ne_ok]
  | some node => cases node <;> simp [unexpected_ne_ok]

/-- a plain scalar that stands for a number within the bound is read as it -/
theorem whole_eq_ok {v : Located} {tag : Option String} {t expected : String} {n bound : Nat}
    (found : v.target = some (.scalar tag .plain t)) (stands : Scalar.natural? t = some n) (small : n < bound) :
    v.whole expected bound = .ok n := by
  simp [whole, plainly, found, Scalar.mayStandFor, stands, small, bind, Except.bind, pure, Except.pure]

theorem readEntries_eq_ok_iff (v : Located) (entries : List (Node × Node)) (seen : List String) (start a : α) :
    v.readEntries fields seen start entries = .ok a ↔ Filled fields seen start (entries.map v.member) a := by
  induction entries generalizing seen start with
  | nil =>
    constructor
    · intro same
      cases same
      exact .done
    · intro filled
      cases filled
      rfl
  | cons entry rest ih =>
    obtain ⟨key, value⟩ := entry
    unfold readEntries
    constructor
    · intro read
      cases named : (⟨v.document, v.path, some key⟩ : Located).text "field identifier" with
      | error fault => simp [named, bind, Except.bind] at read
      | ok name =>
        have at_name := text_eq_ok_iff.1 named
        cases known : fieldNamed fields name with
        | error m => simp [named, known, check, refuse, bind, Except.bind] at read
        | ok field =>
          by_cases old : name ∈ seen
          · simp [named, known, old, check, refuse, bind, Except.bind] at read
          · cases accepted : field.read (v.member (key, value)).2 start with
            | error fault =>
              simp only [member, at_name] at accepted
              simp [named, known, old, accepted, check, bind, Except.bind] at read
            | ok next =>
              have others : v.readEntries fields (name :: seen) next rest = .ok a := by
                simp only [member, at_name] at accepted
                simpa [named, known, old, accepted, check, bind, Except.bind] using read
              rw [List.map_cons, show v.member (key, value) = (some name, (v.member (key, value)).2) from
                Prod.ext at_name rfl]
              exact .member known old accepted ((ih _ _).1 others)
    · intro filled
      rw [List.map_cons] at filled
      generalize at_member : v.member (key, value) = m at filled
      cases filled with
      | @member _ name w field _ next _ _ known fresh accepted others =>
        simp only [member, Prod.mk.injEq] at at_member
        obtain ⟨at_name, rfl⟩ := at_member
        rw [at_name] at accepted
        simp [text_eq_ok_iff.2 at_name, known, fresh, accepted, check, bind, Except.bind, (ih _ _).2 others]

end Located

/-- a whole document that means a value -/
structure Document.Says (d : Document) (j : Json) : Prop where
  whole : d.mistake = none
  meaning : Located.Means ⟨d, [], d.root⟩ j

theorem reads : Source.Reads source Located.members? Located.Means where
  lays {v ms} found := by
    intro α name fields start a
    unfold Located.members? at found
    split at found
    · rename_i tag entries target
      cases found
      rw [← Located.readEntries_eq_ok_iff]
      simp only [source, Located.record, target]
    · cases found
  word {v n} told := by
    cases told with
    | natural found fits stands =>
      rw [UInt32.toNat_toUInt64] at stands
      have small : n.toNat < UInt32.size := n.toNat_lt
      simp [source, Located.whole_eq_ok found stands small, Except.map]
  size {v n} told := by
    cases told with
    | natural found fits stands =>
      have small : n.toNat < UInt64.size := n.toNat_lt
      simp [source, Located.whole_eq_ok found stands small, Except.map]
  flag told := by
    cases told with
    | flag found fits stands =>
      simp [source, Located.plainly, found, Scalar.mayStandFor, stands]
  text told := by
    cases told with
    | text found fits => simp [source, Located.text, found]
  choice told found := by
    cases told with
    | text at_text fits =>
      have foreign : Located.ownName (some Scalar.strTag) = none := by
        simp [Located.ownName, Scalar.strTag]
      rcases fits with rfl | rfl
      · simp [source, Located.choice, at_text, Located.ownName, choose, found, Located.check]
      · simp [source, Located.choice, at_text, foreign, choose, found, Located.check]
  mapping told := by
    cases told with
    | mapping found keys values => exact ⟨_, found, keys, values⟩

end LineTerminal.Yaml
