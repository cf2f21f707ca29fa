import LinkRegistry.Text.Quoted
import LinkRegistry.Time.RecordText

/-!
# Times as a record holds them

**Input.** What a record holds where a timestamp is expected: nothing, a text, a whole
number or a truth value.

**Rule.** Nothing and the empty text mean no timestamp.  Anything else is written out and
read in the record form; a value that is not a text is written as its literal.
-/

namespace LinkRegistry
namespace Time

/-- A timestamp before it is read. -/
inductive RawTime where
  | absent
  | text (s : String)
  | number (n : Int)
  | truth (b : Bool)
  deriving DecidableEq

namespace RawTime

/-- The literal of a truth value. -/
def truthLiteral (b : Bool) : String :=
  if b then "True" else "False"

/-- The value as a message shows it. -/
def literal : RawTime → String
  | absent => "None"
  | text s => Text.quoted s
  | number n => toString n
  | truth b => truthLiteral b

/-- The text that is read; nothing to read means no timestamp. -/
def readable? : RawTime → Option String
  | absent => none
  | text s => if s = "" then none else some s
  | number n => some (toString n)
  | truth b => some (truthLiteral b)

end RawTime
end Time
end LinkRegistry
