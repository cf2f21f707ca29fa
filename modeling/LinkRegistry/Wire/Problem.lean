/-!
# Problems of a message

**Input.** What is wrong with a JSON value, and where.

**Rule.** A problem has a cause and a path of field names and list indexes.  Causes have
code words.  Where the body of a request has to be an object and is not, the code word
is a different one from that of a message on its own.
-/

namespace LinkRegistry
namespace Wire

/-- What is wrong. -/
inductive Cause where
  | missing
  | notObject
  | notText
  /-- The text has to have characters. -/
  | emptyText
  | notArray
  /-- The array has to have items. -/
  | emptyArray
  | notInteger
  /-- The text denotes no integer. -/
  | unreadableInteger
  /-- The number is too large, or has too many digits. -/
  | integerTooLong
  /-- The number has a fraction. -/
  | fractional
  | notFinite
  | negative
  | notPositive
  | notBoolean
  /-- The value denotes neither truth value. -/
  | unreadableBoolean
  | notTime
  /-- The text denotes no timestamp. -/
  | unreadableTime
  /-- The value denotes a time outside of the calendar. -/
  | timeOutOfRange
  deriving DecidableEq

namespace Cause

/-- Code word of a cause in a message on its own. -/
def code : Cause → String
  | missing => "missing"
  | notObject => "model_type"
  | notText => "string_type"
  | emptyText => "string_too_short"
  | notArray => "list_type"
  | emptyArray => "too_short"
  | notInteger => "int_type"
  | unreadableInteger => "int_parsing"
  | integerTooLong => "int_parsing_size"
  | fractional => "int_from_float"
  | notFinite => "finite_number"
  | negative => "greater_than_equal"
  | notPositive => "greater_than"
  | notBoolean => "bool_type"
  | unreadableBoolean => "bool_parsing"
  | notTime => "datetime_type"
  | unreadableTime => "datetime_from_date_parsing"
  | timeOutOfRange => "datetime_parsing"

/-- Code word of a cause in the body of a request. -/
def bodyCode : Cause → String
  | notObject => "model_attributes_type"
  | c => c.code

end Cause

/-- A step from a value to one of its parts. -/
inductive Step where
  | field (name : String)
  | item (index : Nat)
  deriving DecidableEq

/-- A cause at the end of a path. -/
structure Problem where
  cause : Cause
  path : List Step
  deriving DecidableEq

namespace Problem

/-- The problem as seen from a value that has its value as a part. -/
def inside (s : Step) (p : Problem) : Problem :=
  { p with path := s :: p.path }

end Problem
end Wire
end LinkRegistry
