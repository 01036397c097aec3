/-
Points in time, as a date of the Gregorian calendar and a time of day in UTC.

A timestamp is always a real date and time: the year lies between -262143 and 262142, the day exists in its month, and a
minute may have a second 60 (a leap second). Its text is `YYYY-MM-DDTHH:MM:SSZ` with 0, 3, 6 or 9 digits of the second's
fraction, as few as keep it exact; a year outside 0 to 9999 has a sign.
-/
namespace LineTerminal.Time

/-- does the Gregorian calendar give the year a 29 February -/
def isLeapYear (year : Int) : Bool := year % 4 == 0 && (year % 100 != 0 || year % 400 == 0)

def daysInMonth (year : Int) (month : Nat) : Nat :=
  if month = 2 then (if isLeapYear year then 29 else 28)
  else if month = 4 ∨ month = 6 ∨ month = 9 ∨ month = 11 then 30 else 31

/-- the first and the last year of the calendar -/
def minYear : Int := -262143
def maxYear : Int := 262142

/-- does the calendar have this day -/
def dateExists (year : Int) (month day : Nat) : Bool :=
  decide (minYear ≤ year) && decide (year ≤ maxYear) && decide (1 ≤ month) && decide (month ≤ 12) && decide (1 ≤ day)
    && decide (day ≤ daysInMonth year month)

/-- a day of the calendar -/
structure Date where
  year : Int
  month : Nat
  day : Nat
  valid : dateExists year month day = true
  deriving DecidableEq, Repr

/-- a point in time -/
structure Timestamp where
  date : Date
  hour : Nat
  minute : Nat
  /-- 60 in a leap second -/
  second : Nat
  /-- nanoseconds of the second -/
  nano : Nat
  valid : hour < 24 ∧ minute < 60 ∧ second ≤ 60 ∧ nano < 1000000000
  deriving DecidableEq, Repr

def Timestamp.epoch : Timestamp := ⟨⟨1970, 1, 1, by decide⟩, 0, 0, 0, 0, by decide⟩

/-! ## Days one after another -/

/-- a day of the calendar, if there is such a day -/
def Date.of? (year : Int) (month day : Nat) : Option Date :=
  if h : dateExists year month day = true then some ⟨year, month, day, h⟩ else none

/-- the day after a day, if the calendar goes so far -/
def Date.next? (d : Date) : Option Date :=
  if d.day < daysInMonth d.year d.month then Date.of? d.year d.month (d.day + 1)
  else if d.month < 12 then Date.of? d.year (d.month + 1) 1
  else Date.of? (d.year + 1) 1 1

/-- the day before a day, if the calendar goes so far -/
def Date.previous? (d : Date) : Option Date :=
  if 1 < d.day then Date.of? d.year d.month (d.day - 1)
  else if 1 < d.month then Date.of? d.year (d.month - 1) (daysInMonth d.year (d.month - 1))
  else Date.of? (d.year - 1) 12 31

/-- the day so many days later, if the calendar goes so far -/
def Date.later (d : Date) : Nat → Option Date
  | 0 => some d
  | n + 1 => d.next?.bind (fun d => d.later n)

/-- the point in time so many nanoseconds after the beginning of 1970, if the calendar goes so far -/
def Timestamp.ofNanoseconds (n : Nat) : Option Timestamp := do
  let seconds := n / 1000000000
  let date ← Timestamp.epoch.date.later (seconds / 86400)
  let second := seconds % 86400
  return ⟨date, second / 3600, second / 60 % 60, second % 60, n % 1000000000, by omega, by omega, by omega, by omega⟩

/-! ## Texts -/

/-- a number with at least `width` digits -/
def padded (width n : Nat) : List Char :=
  let digits := Nat.toDigits 10 n
  List.replicate (width - digits.length) '0' ++ digits

/-- a year: four digits, or a sign and at least four digits outside 0 to 9999 -/
def writeYear (year : Int) : List Char :=
  if 0 ≤ year ∧ year ≤ 9999 then padded 4 year.toNat
  else (if year < 0 then '-' else '+') :: padded 4 year.natAbs

/-- the fraction of a second with as many groups of three digits as it needs -/
def writeFraction (nano : Nat) : List Char :=
  if nano = 0 then []
  else if nano % 1000000 = 0 then '.' :: padded 3 (nano / 1000000)
  else if nano % 1000 = 0 then '.' :: padded 6 (nano / 1000)
  else '.' :: padded 9 nano

def Date.write (d : Date) : List Char := writeYear d.year ++ '-' :: padded 2 d.month ++ '-' :: padded 2 d.day

def Timestamp.write (t : Timestamp) : List Char :=
  t.date.write ++ 'T' :: padded 2 t.hour ++ ':' :: padded 2 t.minute ++ ':' :: padded 2 t.second
    ++ writeFraction t.nano ++ ['Z']

def Timestamp.render (t : Timestamp) : String := String.ofList t.write

end LineTerminal.Time
