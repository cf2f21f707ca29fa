import LinkRegistry.Number.Double
import LinkRegistry.Text.Digit

/-!
# Decimal numerals

**Input.** Characters.

**Rule.** A decimal numeral has an optional sign and at least one digit.  One point may
stand before, between or behind the digits.  An exponent may follow: the letter `e` in
either case, an optional sign and at least one digit.
-/

namespace LinkRegistry
namespace Text

/-- A decimal numeral that was read. -/
structure Decimal where
  /-- The number that all digits before the exponent make, with the sign. -/
  digits : Int
  /-- How many of the digits stand behind the point, if there is a point. -/
  places : Option Nat
  /-- The exponent, if there is one. -/
  exponent : Option Int
  deriving DecidableEq

/-- Whether the sign is a minus, and what follows the sign. -/
def takeSign : List Char → Bool × List Char
  | '-' :: cs => (true, cs)
  | '+' :: cs => (false, cs)
  | cs => (false, cs)

/-- The number with the sign. -/
def signed (negative : Bool) (n : Nat) : Int :=
  if negative then -n else n

/-- Read the digits, and how many stand behind the point. -/
def takeMantissa? (cs : List Char) : Option (Nat × Option Nat × List Char) :=
  match takeDigits cs with
  | (ds, '.' :: r) =>
      let (es, r) := takeDigits r
      if ds ++ es = [] then none else some (digitsValue (ds ++ es), some es.length, r)
  | (ds, r) => if ds = [] then none else some (digitsValue ds, none, r)

/-- Read the end of the text, or an exponent and the end. -/
def exponent? : List Char → Option (Option Int)
  | [] => some none
  | c :: cs =>
      if c == 'e' || c == 'E' then
        let (negative, r) := takeSign cs
        match takeDigits r with
        | ([], _) => none
        | (ds, []) => some (some (signed negative (digitsValue ds)))
        | _ => none
      else none

namespace Decimal

/-- Read a decimal numeral. -/
def ofText? (cs : List Char) : Option Decimal := do
  let (negative, r) := takeSign cs
  let (n, places, r) ← takeMantissa? r
  let exponent ← exponent? r
  return ⟨signed negative n, places, exponent⟩

/-- The number of double precision nearest to the numeral. -/
def toDouble? (d : Decimal) : Option Double :=
  Double.ofDecimal? d.digits (d.exponent.getD 0 - d.places.getD 0)

end Decimal
end Text
end LinkRegistry
