import LinkRegistry.Number.Rounding
import LinkRegistry.Text.Digit

/-!
# Numbers of double precision

**Input.** Fractions and decimal fractions.

**Rule.** A number of double precision is a whole number of units, where `2 ^ 1074` units
make one.  It has a significand of at most 53 bits, followed by at most 2045 zero bits.
A fraction becomes the nearest such number, the one with an even significand if two are
equally near; one that is too large becomes none.
-/

namespace LinkRegistry

open Text
open Number

/-- A finite number of double precision. -/
structure Double where
  /-- The leading bits, with the sign of the number. -/
  significand : Int
  /-- How many zero bits follow the significand. -/
  scale : Nat
  /-- The significand has at most 53 bits, and the number is below `2 ^ 1024`. -/
  inRange : significand.natAbs < 9007199254740992 ∧ scale ≤ 2045
  deriving DecidableEq

namespace Double

/-- How many units make one. -/
def unitsPerOne : Nat :=
  Nat.pow 2 1074

/-- The number in units. -/
def units (x : Double) : Int :=
  x.significand * Nat.pow 2 x.scale

/-- The number with this significand and scale, if there is one. -/
def ofParts? (significand : Int) (scale : Nat) : Option Double :=
  if h : significand.natAbs < 9007199254740992 ∧ scale ≤ 2045 then
    some ⟨significand, scale, h⟩
  else none

/-- Zero. -/
def zero : Double := ⟨0, 0, by decide⟩

/-- An integer with the sign of another one. -/
def withSign (n : Int) (m : Nat) : Int :=
  if n < 0 then -m else m

/-- The number nearest to `n / d`. -/
def ofFraction? (n : Int) (d : Nat) : Option Double :=
  let u := n.natAbs * unitsPerOne
  let scale := (u / d).log2 - 52
  let significand := roundHalfEven u (d * Nat.pow 2 scale)
  if significand = 9007199254740992 then
    ofParts? (withSign n 4503599627370496) (scale + 1)
  else ofParts? (withSign n significand) scale

/-- The number nearest to an integer. -/
def ofInt? (n : Int) : Option Double :=
  ofFraction? n 1

/-- The number nearest to `n * 10 ^ e`.  Powers of ten that lie far outside of the range
are not multiplied out. -/
def ofDecimal? (n e : Int) : Option Double :=
  if n = 0 then some zero
  else if 400 < e then none
  else if e + n.natAbs.log2 < -400 then some zero
  else ofFraction? (n * tenPower e.toNat) (tenPower (-e).toNat)

/-- The largest integer that is not above the number. -/
def floor (x : Double) : Int :=
  x.units / unitsPerOne

/-- The integer that the number is, if it is one. -/
def toInt? (x : Double) : Option Int :=
  if x.units % unitsPerOne = 0 then some x.floor else none

/-- The absolute value is above an integer. -/
def exceeds (x : Double) (n : Nat) : Bool :=
  n * unitsPerOne < x.units.natAbs

/-- The product with an integer. -/
def times? (x : Double) (n : Nat) : Option Double :=
  ofFraction? (x.units * n) unitsPerOne

/-- What the number has beyond its floor. -/
def rest? (x : Double) : Option Double :=
  ofFraction? (x.units - x.floor * unitsPerOne) unitsPerOne

/-- The number in `n`-th parts of one: those of the floor, and those of the rest, rounded.
Each step is rounded to double precision before. -/
def parts? (x : Double) (n : Nat) : Option Int := do
  let rest ← x.rest?
  let parts ← rest.times? n
  return x.floor * n + roundHalfUp parts.units.toNat unitsPerOne

end Double
end LinkRegistry
