/-
Values of the JSON data format.

Numbers keep the three ways in which a text can give them: a whole number from zero, a whole number below zero, and
anything else as a floating point number. The members of an object are in ascending order of their names and no name
comes twice: `Json.object` built by `ofMembers` keeps that, the last of two equal names wins.
-/
import LineTerminal.Decimal.Double

namespace LineTerminal

/-- a number of a JSON text -/
inductive Json.Number where
  /-- a whole number from zero, below 2^64 -/
  | natural (n : UInt64)
  /-- the whole number `-(n + 1)` -/
  | negative (n : Fin 0x8000000000000000)
  | double (d : Double)
  deriving DecidableEq, Repr

inductive Json where
  | null
  | bool (b : Bool)
  | number (n : Json.Number)
  | text (s : String)
  | array (items : List Json)
  | object (members : List (String × Json))
  deriving Repr

namespace Json

/-- put a member in its place among members in ascending order; an equal name is replaced -/
def insert (name : String) (value : Json) : List (String × Json) → List (String × Json)
  | [] => [(name, value)]
  | (n, v) :: rest =>
    if name < n then (name, value) :: (n, v) :: rest
    else if name = n then (name, value) :: rest
    else (n, v) :: insert name value rest

/-- an object with the given members, in any order -/
def ofMembers (members : List (String × Json)) : Json :=
  .object (members.foldl (fun acc m => insert m.1 m.2 acc) [])

/-- a whole number that fits 64 bits -/
def natural (n : UInt64) : Json := .number (.natural n)

/-- a count of things in memory -/
def count (n : Nat) : Json := natural n.toUInt64

/-- a 32-bit number -/
def word (n : UInt32) : Json := natural n.toUInt64

/-- a text, or null when it is missing -/
def optional : Option String → Json
  | none => .null
  | some s => .text s

def member? (name : String) : Json → Option Json
  | .object members => (members.find? (fun m => m.1 == name)).map (·.2)
  | _ => none

def isNull : Json → Bool
  | null => true
  | _ => false

/-! ## The members of a built object -/

/-- a member that is put in its place is found, and every other member is found as before -/
theorem find?_insert (name key : String) (value : Json) (members : List (String × Json)) :
    (insert name value members).find? (·.1 == key)
      = if name = key then some (name, value) else members.find? (·.1 == key) := by
  induction members with
  | nil => by_cases h : name = key <;> simp [insert, h]
  | cons m rest ih =>
    obtain ⟨n, v⟩ := m
    unfold insert
    split
    · by_cases h : name = key <;> simp [h]
    · split
      · rename_i same
        subst same
        by_cases h : name = key <;> simp [h]
      · rename_i other
        rw [List.find?_cons, List.find?_cons, ih]
        by_cases h : name = key
        · subst h
          have passed : (n == name) = false := beq_eq_false_iff_ne.2 (Ne.symm other)
          simp [passed]
        · simp [h]

theorem find?_foldl_insert (key : String) (members acc : List (String × Json)) :
    (members.foldl (fun acc m => insert m.1 m.2 acc) acc).find? (·.1 == key)
      = (members.reverse.find? (·.1 == key)).or (acc.find? (·.1 == key)) := by
  induction members generalizing acc with
  | nil => rfl
  | cons m members ih =>
    obtain ⟨name, value⟩ := m
    rw [List.foldl_cons, ih, find?_insert, List.reverse_cons, List.find?_append, Option.or_assoc]
    by_cases h : name = key <;> simp [h]

/-- of the members that an object is built from, the last one of a name is found -/
theorem member?_ofMembers (key : String) (members : List (String × Json)) :
    (ofMembers members).member? key = (members.reverse.find? (·.1 == key)).map (·.2) := by
  simp only [ofMembers, member?, find?_foldl_insert, List.find?_nil, Option.or_none]

end Json

end LineTerminal
