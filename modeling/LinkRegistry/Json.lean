import LinkRegistry.Text.Decimal

/-!
# JSON values

**Input.** Documents that records and requests are made of, once they are parsed.  Their texts
are sequences of Unicode characters; a document with an escape for only half of a surrogate
pair is left out.

**Rule.** A numeral without point and exponent is an integer of any size; any other is
a number of double precision, or not finite if it is too large for one.  The fields of
an object are looked up by name.
-/

namespace LinkRegistry

/-- A JSON value. -/
inductive Json where
  | null
  | bool (b : Bool)
  | int (n : Int)
  | real (x : Double)
  /-- A number that is infinite or undefined. -/
  | nonFinite
  | text (s : String)
  | array (items : List Json)
  | object (fields : List (String × Json))
  deriving Inhabited

namespace Json

/-- The number that a numeral denotes. -/
def ofNumeral? (cs : List Char) : Option Json :=
  match Text.Decimal.ofText? cs with
  | some ⟨n, none, none⟩ => some (int n)
  | some d =>
      match d.toDouble? with
      | some x => some (real x)
      | none => some nonFinite
  | none => none

/-- The value, or null if there is none. -/
def orNull {α : Type} (write : α → Json) : Option α → Json
  | none => null
  | some a => write a

/-- An array of texts. -/
def texts (ss : List String) : Json :=
  array (ss.map text)

/-- The named field of an object. -/
def field? (name : String) : Json → Option Json
  | object fields => fields.lookup name
  | _ => none

/-- The named field, a missing one being null. -/
def fieldOrNull (name : String) (j : Json) : Json :=
  (j.field? name).getD null

end Json
end LinkRegistry
