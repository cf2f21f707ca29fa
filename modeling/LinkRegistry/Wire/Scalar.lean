import LinkRegistry.Number.Word
import LinkRegistry.Time.WireText
import LinkRegistry.Wire.IntegerText
import LinkRegistry.Wire.Reading

/-!
# Scalar values of messages

**Input.** JSON values that stand for texts, integers, truth values and timestamps.

**Rule.** Texts are taken only from texts.  An integer is also taken from a text, from a
truth value as 0 or 1, and from a number of double precision that is one and fits a
machine word of 64 bits.  A truth value is also taken from 0 and 1 in either kind of
number and from a few words in any letter case; whether another number is of the wrong
value or of the wrong type depends on whether it is an integer that fits a machine word.
A timestamp is taken from its wire form, text or number.  A number that is not finite is
none of these.
-/

namespace LinkRegistry
namespace Wire

/-- Read a text. -/
def text : Json → Reading String
  | .text s => .ok s
  | _ => Reading.fail .notText

/-- Read a text that has characters. -/
def nonemptyText : Json → Reading String
  | .text "" => Reading.fail .emptyText
  | .text s => .ok s
  | _ => Reading.fail .notText

/-- The value of the option, or else a problem. -/
def orFail {α : Type} (c : Cause) : Option α → Reading α
  | some a => .ok a
  | none => Reading.fail c

/-- Read an integer from a number of double precision. -/
def integerOfReal (x : Double) : Reading Int :=
  match x.toInt? with
  | none => Reading.fail .fractional
  | some n => if n.natAbs < Number.wordLimit then .ok n else Reading.fail .integerTooLong

/-- Read an integer. -/
def integer : Json → Reading Int
  | .bool b => .ok (if b then 1 else 0)
  | .int n => .ok n
  | .real x => integerOfReal x
  | .nonFinite => Reading.fail .notFinite
  | .text s =>
      match integerOfText s with
      | .ok n => .ok n
      | .error .unreadable => Reading.fail .unreadableInteger
      | .error .tooLong => Reading.fail .integerTooLong
  | _ => Reading.fail .notInteger

/-- Read an integer that is at least zero. -/
def natural (j : Json) : Reading Nat :=
  match integer j with
  | .ok (.ofNat n) => .ok n
  | .ok (.negSucc _) => Reading.fail .negative
  | .error p => .error p

/-- Read an integer that is above zero. -/
def positive (j : Json) : Reading Nat :=
  match integer j with
  | .ok (.ofNat (n + 1)) => .ok (n + 1)
  | .ok _ => Reading.fail .notPositive
  | .error p => .error p

/-- Words that mean true. -/
def trueWords : List String := ["1", "true", "t", "yes", "y", "on"]

/-- Words that mean false. -/
def falseWords : List String := ["0", "false", "f", "no", "n", "off"]

/-- The truth value that a word means. -/
def booleanWord? (s : String) : Option Bool :=
  let w := String.ofList (s.toList.map Char.toLower)
  if trueWords.contains w then some true
  else if falseWords.contains w then some false
  else none

/-- Read a truth value from an integer that fits a machine word. -/
def booleanOfWord : Int → Reading Bool
  | 0 => .ok false
  | 1 => .ok true
  | _ => Reading.fail .unreadableBoolean

/-- Read a truth value. -/
def boolean : Json → Reading Bool
  | .bool b => .ok b
  | .text s => orFail .unreadableBoolean (booleanWord? s)
  | .int n =>
      if Number.FitsWord n then booleanOfWord n else Reading.fail .notBoolean
  | .real x =>
      match integerOfReal x with
      | .ok n => booleanOfWord n
      | .error _ => Reading.fail .notBoolean
  | _ => Reading.fail .notBoolean

/-- Read a timestamp from an integer, of which the nearest number of double precision is
given.  An integer that has none is no timestamp. -/
def timeOfInteger (nearest : Option Double) (n : Int) : Reading Time.Timestamp :=
  match nearest with
  | some _ => orFail .timeOutOfRange (Time.Timestamp.ofUnixMicros? (Time.microsOfInt n))
  | none => Reading.fail .notTime

/-- Read a timestamp. -/
def time : Json → Reading Time.Timestamp
  | .text s =>
      match Time.Timestamp.ofWireText s with
      | .ok t => .ok t
      | .error .unreadable => Reading.fail .unreadableTime
      | .error .yearZero => Reading.fail .timeOutOfRange
  | .int n => timeOfInteger (Double.ofInt? n) n
  | .nonFinite => Reading.fail .timeOutOfRange
  | .real x =>
      orFail .timeOutOfRange ((Time.microsOfReal? x).bind Time.Timestamp.ofUnixMicros?)
  | _ => Reading.fail .notTime

/-- Print a timestamp. -/
def timeJson (t : Time.Timestamp) : Json :=
  .text t.wireText

end Wire
end LinkRegistry
