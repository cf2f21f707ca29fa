import LinkRegistry.Text.Blank
import LinkRegistry.Text.Decimal
import LinkRegistry.Text.Numeral

/-!
# Integers as texts

**Input.** A text where a message should have an integer.

**Rule.** A plain numeral is an optional hyphen and ASCII digits without leading zeros, of
which there are at most 4300.  A text that is none is tidied, and then it has to be one,
unless it begins with too many digits.  Tidying removes blanks at the ends, a plus that
no hyphen follows, leading zeros, a final point with zeros only, and single underscores.
Leading zeros may have underscores among them and a hyphen before or behind them.
-/

namespace LinkRegistry
namespace Wire

open Text

/-- Why a text is no integer. -/
inductive NumeralFault where
  | unreadable
  /-- The text begins like a plain numeral with too many digits. -/
  | tooLong
  deriving DecidableEq

/-- Read a plain numeral after its hyphen. -/
def plainDigits (cs : List Char) : Except NumeralFault Nat :=
  match takeDigits cs with
  | ([0], []) => .ok 0
  | ([], _) => .error .unreadable
  | (0 :: _, _) => .error .unreadable
  | (ds, r) =>
      if digitLimit < ds.length then .error .tooLong
      else if r = [] then .ok (digitsValue ds)
      else .error .unreadable

/-- Read a plain numeral. -/
def plainNumeral : List Char → Except NumeralFault Int
  | '-' :: cs => (plainDigits cs).map fun n => -Int.ofNat n
  | cs => (plainDigits cs).map Int.ofNat

/-- The text without a leading plus. -/
def withoutPlus? : List Char → Option (List Char)
  | '+' :: '-' :: _ => none
  | '+' :: cs => some cs
  | cs => some cs

/-- The character may begin what is left when leading zeros are removed. -/
def beginsNumeral (c : Char) : Bool :=
  c == '-' || (c != '0' && (digitValue? c).isSome)

/-- The text from where leading zeros end.  The last of them is kept if nothing else is
left, or if a point follows. -/
def afterZeros? (last : Char) : List Char → Option (List Char)
  | [] => some [last]
  | c :: cs =>
      if c == '0' || c == '_' then afterZeros? c cs
      else if c == '.' then some (last :: c :: cs)
      else if beginsNumeral c then some (c :: cs)
      else none

/-- The text without leading zeros. -/
def withoutLeadingZeros? : List Char → Option (List Char)
  | [] => none
  | c :: cs =>
      if c == '0' then afterZeros? c cs
      else if beginsNumeral c then some (c :: cs)
      else none

/-- The text before the first point, if zeros follow the point and nothing else does. -/
def withoutZeroFraction : List Char → List Char
  | [] => []
  | '.' :: zs => if zs ≠ [] ∧ zs.all (· == '0') then [] else '.' :: zs
  | c :: cs => c :: withoutZeroFraction cs

/-- Two underscores are neighbours. -/
def hasDoubleUnderscore : List Char → Bool
  | '_' :: '_' :: _ => true
  | _ :: cs => hasDoubleUnderscore cs
  | [] => false

/-- The text without underscores, if each of them stands alone between two characters. -/
def withoutUnderscores (cs : List Char) : List Char :=
  if cs.head? = some '_' ∨ cs.getLast? = some '_' ∨ hasDoubleUnderscore cs then cs
  else cs.filter (· != '_')

/-- The tidied text, up to a hyphen in front. -/
def tidyUnsigned? (cs : List Char) : Option (List Char) :=
  (withoutLeadingZeros? cs).map fun cs => withoutUnderscores (withoutZeroFraction cs)

/-- The tidied text. -/
def tidy? (cs : List Char) : Option (List Char) :=
  (withoutPlus? (trim cs)).bind fun
    | '-' :: cs => (tidyUnsigned? cs).map ('-' :: ·)
    | cs => tidyUnsigned? cs

/-- Read an integer from a text.  A tidied text with too many digits is unreadable. -/
def integerOfText (s : String) : Except NumeralFault Int :=
  match plainNumeral s.toList with
  | .error .unreadable =>
      match (tidy? s.toList).map plainNumeral with
      | some (.ok n) => .ok n
      | _ => .error .unreadable
  | r => r

end Wire
end LinkRegistry
