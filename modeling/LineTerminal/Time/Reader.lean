/-
Reading points in time.

The reader is lenient about a date and time with an offset: numbers may lack leading zeros, blanks may stand before
numbers, separators and the offset, the date and the time may be apart by a blank or a small letter, and the offset may
be a word. A time with an offset is moved to UTC, a leap second stays one, and digits beyond nanoseconds are dropped.
-/
import LineTerminal.Text
import LineTerminal.Time.Timestamp

namespace LineTerminal.Time

inductive Fault where
  | outOfRange | impossible | invalid | tooShort | trailing
  deriving DecidableEq, Repr

def Fault.message : Fault → String
  | outOfRange => "input is out of range"
  | impossible => "no possible date and time matching input"
  | invalid => "input contains invalid characters"
  | tooShort => "premature end of input"
  | trailing => "trailing input"

/-- the text without the blanks at its beginning -/
def trim (cs : List Char) : List Char := cs.dropWhile Text.isBlank

/-- numbers are read into 64 bits with a sign -/
def maxNumber : Nat := 0x8000000000000000 - 1

/-- a number of one digit or more, of which at most `width` are taken -/
def number (width : Option Nat) (cs : List Char) : Except Fault (Nat × List Char) :=
  match cs with
  | [] => .error .tooShort
  | c :: _ =>
    if !c.isDigit then .error .invalid
    else
      let all := cs.takeWhile Char.isDigit
      let digits := match width with
        | some w => all.take w
        | none => all
      let n := digits.foldl (fun n c => 10 * n + (c.toNat - 48)) 0
      if maxNumber < n then .error .outOfRange else .ok (n, cs.drop digits.length)

/-- a number of at most two digits between two bounds, after blanks -/
def bounded (low high : Nat) (cs : List Char) : Except Fault (Nat × List Char) := do
  let (n, rest) ← number (some 2) (trim cs)
  if low ≤ n ∧ n ≤ high then return (n, rest) else .error .outOfRange

/-- a year: four digits at most, or any number of them after a sign -/
def year (cs : List Char) : Except Fault (Int × List Char) := do
  let (n, rest) ← match trim cs with
    | '-' :: rest => (number none rest).map (fun (n, r) => (-(n : Int), r))
    | '+' :: rest => (number none rest).map (fun (n, r) => ((n : Int), r))
    | rest => (number (some 4) rest).map (fun (n, r) => ((n : Int), r))
  if -0x80000000 ≤ n ∧ n < 0x80000000 then return (n, rest) else .error .outOfRange

/-- a separator after blanks -/
def separator (c : Char) (cs : List Char) : Except Fault (List Char) :=
  match trim cs with
  | [] => .error .tooShort
  | d :: rest => if d = c then .ok rest else .error .invalid

/-- the fraction of a second in nanoseconds, if there is a point -/
def fraction : List Char → Except Fault (Nat × List Char)
  | '.' :: rest => do
    let (n, after) ← number (some 9) rest
    let digits := rest.length - after.length
    return (n * Nat.pow 10 (9 - digits), after.dropWhile Char.isDigit)
  | cs => .ok (0, cs)

/-- the first two bytes as a number of two digits -/
def twoDigits (cs : List Char) : Except Fault (Nat × List Char) :=
  if (String.ofList (cs.take 2)).utf8ByteSize < 2 then .error .tooShort
  else match cs with
    | a :: b :: rest =>
      if a.isDigit && b.isDigit then .ok ((a.toNat - 48) * 10 + (b.toNat - 48), rest) else .error .invalid
    | _ => .error .invalid

/-- does the text begin with the name of UTC, in any case -/
def startsWithUtc (cs : List Char) : Bool := (cs.take 3).map Char.toUpper == ['U', 'T', 'C']

/-- the offset of the local time from UTC in minutes -/
def offset (cs : List Char) : Except Fault (Int × List Char) :=
  let cs := trim cs
  if startsWithUtc cs then .ok (0, cs.drop 3)
  else match cs with
    | [] => .error .tooShort
    | c :: rest =>
      if c = 'Z' ∨ c = 'z' then .ok (0, rest)
      else if c = '+' ∨ c = '-' ∨ c = '\u2212' then do
        let (hours, rest) ← twoDigits rest
        let (minutes, rest) ← twoDigits (rest.dropWhile (fun c => c == ':' || Text.isBlank c))
        if 60 ≤ minutes then .error .outOfRange
        else
          let n : Int := (hours * 60 + minutes : Nat)
          return (if c = '+' then n else -n, rest)
      else .error .invalid

/-- a local time, given `minutes` ahead of UTC, in UTC -/
def toUtc (date : Date) (hour minute : Nat) (minutes : Int) : Option (Date × Nat × Nat) :=
  let total : Int := (hour * 60 + minute : Nat) - minutes
  let date? := if total < 0 then date.previous? else if 1440 ≤ total then date.next? else some date
  let rest := (total % 1440).toNat
  date?.map (fun d => (d, rest / 60, rest % 60))

/-- the letter or blank between the date and the time -/
def betweenDateAndTime : List Char → Except Fault (List Char)
  | [] => .error .tooShort
  | c :: rest => if c = 'T' ∨ c = 't' ∨ c = ' ' then .ok rest else .error .invalid

/-- put a point in time together from checked parts -/
def assemble (year : Int) (month day hour minute second nano : Nat) (minutes : Int) : Except Fault Timestamp :=
  match Date.of? year month day with
  | none => .error .outOfRange
  | some date =>
    if minutes ≤ -1440 ∨ 1440 ≤ minutes then .error .outOfRange
    else match toUtc date hour minute minutes with
      | none => .error .impossible
      | some (date, hour, minute) =>
        if h : hour < 24 ∧ minute < 60 ∧ second ≤ 60 ∧ nano < 1000000000 then
          .ok ⟨date, hour, minute, second, nano, h⟩
        else .error .outOfRange

def Timestamp.read (text : String) : Except Fault Timestamp := do
  let (year, cs) ← year text.toList
  let cs ← separator '-' cs
  let (month, cs) ← bounded 1 12 cs
  let cs ← separator '-' cs
  let (day, cs) ← bounded 1 31 cs
  let cs ← betweenDateAndTime cs
  let (hour, cs) ← bounded 0 23 cs
  let cs ← separator ':' cs
  let (minute, cs) ← bounded 0 59 cs
  let cs ← separator ':' cs
  let (second, cs) ← bounded 0 60 cs
  let (nano, cs) ← fraction cs
  let (minutes, cs) ← offset cs
  if !(trim cs).isEmpty then .error .trailing
  else assemble year month day hour minute second nano minutes

end LineTerminal.Time
