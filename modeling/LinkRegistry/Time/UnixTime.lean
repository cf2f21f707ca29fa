import LinkRegistry.Number.Double
import LinkRegistry.Text.Decimal
import LinkRegistry.Time.Timestamp

/-!
# Numbers as times

**Input.** A number, or a text that denotes one.

**Rule.** A number counts time from the start of 1970 in UTC: in milliseconds if its absolute
value is above 20000000000, and in seconds otherwise.  An integer is exact.  Any other
number, and that of a numeral with a point, is of double precision; what it has beyond
its floor is rounded to the nearest microsecond.
-/

namespace LinkRegistry
namespace Time

/-- Numbers above this count milliseconds. -/
def secondsLimit : Nat := 20000000000

/-- Microseconds of a millisecond. -/
def microsPerMilli : Nat := 1000

/-- Microseconds that an integer denotes. -/
def microsOfInt (n : Int) : Int :=
  n * (if secondsLimit < n.natAbs then microsPerMilli else microsPerSecond)

/-- Microseconds that a number of double precision denotes. -/
def microsOfReal? (x : Double) : Option Int :=
  x.parts? (if x.exceeds secondsLimit then microsPerMilli else microsPerSecond)

/-- Microseconds that a numeral denotes.  One with an exponent has to have a point. -/
def microsOfNumeral? (d : Text.Decimal) : Option Int :=
  match d.places, d.exponent with
  | none, none => some (microsOfInt d.digits)
  | none, some _ => none
  | some _, _ => d.toDouble?.bind microsOfReal?

end Time
end LinkRegistry
