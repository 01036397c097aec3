/-
The shortest decimal text of a floating point number.

Of all decimals that round to the number, the one with the fewest digits is chosen, and the nearest of those; an exact
tie goes to the even digit. The search runs over grids of powers of ten from coarse to fine, in whole numbers: on each
grid only the two neighbours of the number can be such a decimal. `Layout` says how the digits are written.
-/
import LineTerminal.Decimal.Double

namespace LineTerminal.Decimal

/-- a decimal `digits · 10^power` -/
structure Scaled where
  digits : Nat
  power : Int
  deriving DecidableEq, Repr

/-- a positive number as quotients of one denominator: the value and the ends of what rounds to it -/
structure Range where
  value : Nat
  low : Nat
  high : Nat
  denominator : Nat
  /-- do the ends round to the number too -/
  closed : Bool

/-- what rounds to a finite number that is not zero -/
def Range.of (d : Double) : Range :=
  let (m, q) := d.magnitude
  let unit := Nat.pow 2 q
  ⟨4 * m * unit, (4 * m - d.gapBelow) * unit, (4 * m + 2) * unit, Nat.pow 2 1076, m % 2 == 0⟩

/-- does `n · 10^power` round to the number -/
def Range.holds (r : Range) (n : Nat) (power : Int) : Bool :=
  let left := n * Nat.pow 10 power.toNat * r.denominator
  let scale := Nat.pow 10 (-power).toNat
  if r.closed then r.low * scale ≤ left && left ≤ r.high * scale
  else r.low * scale < left && left < r.high * scale

/-- the neighbour on the grid of `10^power` that rounds to the number, the nearer one if both do -/
def Range.onGrid (r : Range) (power : Int) : Option Scaled :=
  let top := r.value * Nat.pow 10 (-power).toNat
  let bottom := r.denominator * Nat.pow 10 power.toNat
  let n := top / bottom
  let rest := top % bottom
  let lower := n != 0 && r.holds n power
  let upper := r.holds (n + 1) power
  let nearer := if 2 * rest = bottom then n % 2 == 0 else 2 * rest < bottom
  if lower && (nearer || !upper) then some ⟨n, power⟩
  else if upper then some ⟨n + 1, power⟩
  else none

/-- the first grid with a hit, from `10^power` towards finer ones -/
def Range.search (r : Range) : Nat → Int → Scaled
  | 0, power => ⟨r.value * Nat.pow 10 (-power).toNat / (r.denominator * Nat.pow 10 power.toNat), power⟩
  | fuel + 1, power =>
    match r.onGrid power with
    | some s => s
    | none => r.search fuel (power - 1)

/-- the fewest digits that round to a finite number that is not zero -/
def shortest (d : Double) : Scaled := (Range.of d).search 640 310

/-- the digits of a decimal and the place of the first one: `(['1', '5'], 0)` is 1.5 -/
def Scaled.places (s : Scaled) : List Char × Int :=
  let all := Nat.toDigits 10 s.digits
  let kept := (all.reverse.dropWhile (· == '0')).reverse
  (kept, s.power + all.length - 1)

/-- which places of the first digit are written without an exponent -/
structure Layout where
  lowest : Int
  highest : Int

/-- no exponent, whatever the size -/
def Layout.positional : Layout := ⟨-400, 400⟩

/-- digits around a point, at least one digit on each side -/
def pointed (digits : List Char) (place : Int) : List Char :=
  if place < 0 then '0' :: '.' :: (List.replicate (-place - 1).toNat '0' ++ digits)
  else
    let n := place.toNat + 1
    let whole := digits.take n ++ List.replicate (n - digits.length) '0'
    let rest := digits.drop n
    whole ++ '.' :: (if rest.isEmpty then ['0'] else rest)

/-- digits with an exponent, whose sign is always written -/
def withExponent (digits : List Char) (place : Int) : List Char :=
  let head := match digits with
    | [] => ['0']
    | [d] => [d]
    | d :: rest => d :: '.' :: rest
  head ++ 'e' :: (if place < 0 then '-' else '+') :: Nat.toDigits 10 place.natAbs

/-- the text of a finite number -/
def Layout.render (layout : Layout) (d : Double) : String :=
  let sign := if d.isNegative then ['-'] else []
  let body :=
    if d.magnitude.1 = 0 then ['0', '.', '0']
    else
      let (digits, place) := (shortest d).places
      if layout.lowest ≤ place ∧ place ≤ layout.highest then pointed digits place else withExponent digits place
  String.ofList (sign ++ body)

end LineTerminal.Decimal
