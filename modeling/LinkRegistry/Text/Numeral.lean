import LinkRegistry.Text.Blank
import LinkRegistry.Text.Digit

/-!
# Integer numerals

**Input.** A text that should denote an integer.

**Rule.** Blanks at the ends do not count.  Then comes an optional sign and at least one
digit, and at most 4300, where a single underscore may stand between two digits.  Which
characters are digits is a parameter.
-/

namespace LinkRegistry
namespace Text

section Digits

variable (value? : Char → Option Nat)

/-- Read the digits that follow those of `acc`. -/
def moreDigits : Nat → List Char → Option Nat
  | acc, [] => some acc
  | acc, '_' :: c :: cs =>
      match value? c with
      | some d => moreDigits (acc * 10 + d) cs
      | none => none
  | acc, c :: cs =>
      match value? c with
      | some d => moreDigits (acc * 10 + d) cs
      | none => none

/-- Read digits, at least one. -/
def unsigned? : List Char → Option Nat
  | [] => none
  | c :: cs =>
      match value? c with
      | some d => moreDigits value? d cs
      | none => none

/-- Read digits after an optional sign. -/
def signed? : List Char → Option Int
  | '+' :: cs => (unsigned? value? cs).map Int.ofNat
  | '-' :: cs => (unsigned? value? cs).map fun n => -Int.ofNat n
  | cs => (unsigned? value? cs).map Int.ofNat

end Digits

/-- An integer numeral has no more digits than this. -/
def digitLimit : Nat := 4300

/-- An integer in Unicode decimal digits. -/
def integer? (s : String) : Option Int :=
  if (s.toList.filter fun c => (decimalValue? c).isSome).length ≤ digitLimit then
    signed? decimalValue? (trim s.toList)
  else none

end Text
end LinkRegistry
