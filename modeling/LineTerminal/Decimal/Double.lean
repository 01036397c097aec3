/-
Binary floating point numbers of 64 bits, kept as their bits.

A finite number is `m · 2^q` with a sign, and `Double.parts` gives the three. Reading takes a whole number and a power of
ten: the whole number is rounded first and then multiplied or divided by the rounded power, which is how the reader of
JSON texts does it. `ofDecimal` rounds once instead and is how a reader that is exact does it.
-/
namespace LineTerminal

/-- a 64-bit floating point number, as its bits -/
structure Double where
  bits : UInt64
  deriving DecidableEq, Repr

namespace Double

def ofFloat (f : Float) : Double := ⟨f.toBits⟩

def toFloat (d : Double) : Float := Float.ofBits d.bits

def isNegative (d : Double) : Bool := d.bits >>> 63 == 1

/-- the exponent as it is stored, 0 to 2047 -/
def storedExponent (d : Double) : Nat := ((d.bits >>> 52) &&& 0x7ff).toNat

/-- the fraction as it is stored, below 2^52 -/
def storedFraction (d : Double) : Nat := (d.bits &&& 0xfffffffffffff).toNat

def isFinite (d : Double) : Bool := d.storedExponent != 2047

def isNaN (d : Double) : Bool := d.storedExponent == 2047 && d.storedFraction != 0

/-- the size of a finite number: `m · 2^(q - 1074)` as the pair of `m` and `q` -/
def magnitude (d : Double) : Nat × Nat :=
  if d.storedExponent = 0 then (d.storedFraction, 0)
  else (d.storedFraction + 0x10000000000000, d.storedExponent - 1)

/-- the numbers that round to a number reach from `(4m - below)` to `(4m + 2)` quarters of its last place; the gap below
a power of two is half as wide -/
def gapBelow (d : Double) : Nat := if d.storedFraction = 0 ∧ 1 < d.storedExponent then 1 else 2

/-- the number nearest to `whole · 10^power`, rounded once; beyond the range it is infinite or zero -/
def ofDecimal (whole : Nat) (power : Int) : Double :=
  if whole = 0 then ⟨0⟩
  else
    let size : Int := (Nat.toDigits 10 whole).length + power
    if 310 < size then ⟨0x7ff0000000000000⟩
    else if size < -325 then ⟨0⟩
    else if 0 ≤ power then ofFloat (Float.ofScientific whole false power.toNat)
    else ofFloat (Float.ofScientific whole true (-power).toNat)

def negate (d : Double) : Double := ⟨d.bits ^^^ 0x8000000000000000⟩

/-- a power of ten, rounded once -/
def tenTo (n : Nat) : Float := Float.ofScientific 1 false n

/-- the number that a text with the digits `whole` and the exponent `power` stands for when it is rounded twice; `none`
when it is out of range -/
def ofSteps (whole : UInt64) (power : Int) : Option Double :=
  let start := whole.toFloat
  if whole = 0 then some ⟨0⟩
  else if 0 ≤ power then
    if 308 < power then none
    else
      let f := start * tenTo power.toNat
      if f.isInf then none else some (ofFloat f)
  else
    let n := (-power).toNat
    if n ≤ 308 then some (ofFloat (start / tenTo n))
    else if n ≤ 616 then some (ofFloat (start / tenTo 308 / tenTo (n - 308)))
    else some ⟨0⟩

end Double

end LineTerminal
