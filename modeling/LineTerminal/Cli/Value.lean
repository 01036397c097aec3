/-
Values on the command line: one of a few alternatives, or a whole number.

A number may have a sign. It is read from the left and has to stay within 64 bits on the way; the first character that is
no digit, or the first that makes it too large, is the reason to refuse it.
-/
import LineTerminal.Text

namespace LineTerminal.Cli

/-! ## Alternatives -/

/-- why an argument names no alternative -/
structure UnknownChoice where
  given : String
  deriving DecidableEq, Repr

def UnknownChoice.message (u : UnknownChoice) : String := "invalid variant: " ++ u.given

/-- the alternative an argument names, with or without regard to case -/
def choose {α : Type} (known : List (String × α)) (ignoreCase : Bool) (given : String) : Except UnknownChoice α :=
  match known.find? (fun k => if ignoreCase then Text.equalFolded k.1 given else k.1 == given) with
  | some k => .ok k.2
  | none => .error ⟨given⟩

/-! ## Whole numbers -/

/-- why a text is no number in range -/
inductive NumberFault where
  | empty | invalidDigit | tooLarge | tooSmall
  /-- a number beyond the greatest one allowed, or below zero -/
  | outOfRange (n : Int) (greatest : Nat)
  deriving DecidableEq, Repr

def NumberFault.message : NumberFault → String
  | empty => "cannot parse integer from empty string"
  | invalidDigit => "invalid digit found in string"
  | tooLarge => "number too large to fit in target type"
  | tooSmall => "number too small to fit in target type"
  | outOfRange n greatest => toString n ++ " is not in 0..=" ++ toString greatest

/-- digits after those that make `n`, up to a bound -/
def readDigits (bound : Nat) (beyond : NumberFault) : Nat → List Char → Except NumberFault Nat
  | n, [] => .ok n
  | n, c :: rest =>
    if !c.isDigit then .error .invalidDigit
    else
      let next := 10 * n + (c.toNat - 48)
      if bound < next then .error beyond else readDigits bound beyond next rest

/-- a whole number of 64 bits -/
def readWhole (s : String) : Except NumberFault Int :=
  match s.toList with
  | [] => .error .empty
  | ['+'] | ['-'] => .error .invalidDigit
  | '-' :: rest => (readDigits 0x8000000000000000 .tooSmall 0 rest).map (fun n => -(n : Int))
  | '+' :: rest => (readDigits (0x8000000000000000 - 1) .tooLarge 0 rest).map (fun n => (n : Int))
  | cs => (readDigits (0x8000000000000000 - 1) .tooLarge 0 cs).map (fun n => (n : Int))

/-- the greatest number of 32 bits -/
def greatestWord : Nat := UInt32.size - 1

/-- a number of 32 bits -/
def readWord (s : String) : Except NumberFault UInt32 := do
  let n ← readWhole s
  if n < 0 ∨ (greatestWord : Int) < n then .error (.outOfRange n greatestWord) else return n.toNat.toUInt32

end LineTerminal.Cli
