import LinkRegistry.Text.Digit
import LinkRegistry.Text.Split

/-!
# Sources of fresh ids

**Input.** A source, which is drawn from repeatedly.

**Rule.** A numbered source writes a stem, a hyphen and a counter that goes up by one with
every draw, from wherever it starts.  A random source turns random numbers into ids of
five groups of lower-case hexadecimal digits, where the first digit of the third group
is 4 and that of the fourth is one of 8, 9, a and b.  Any other source is given by the id
that each draw yields.

**Results.** Drawing from a numbered source leaves the next number
(`draw_numbered`).
-/

namespace LinkRegistry

/-- The id made of a random number. -/
def randomId (n : Nat) : String :=
  let ds := Text.hexPadded 30 n
  let variant := Nat.digitChar (8 + (n >>> 120) % 4)
  String.ofList (Text.join '-'
    [ds.take 8, (ds.drop 8).take 4, '4' :: (ds.drop 12).take 3,
      variant :: (ds.drop 15).take 3, ds.drop 18])

/-- A lower-case hexadecimal digit. -/
def isHexDigit (c : Char) : Bool :=
  ('0' ≤ c && c ≤ '9') || ('a' ≤ c && c ≤ 'f')

/-- The text has the form of a random id. -/
def isRandomId (s : String) : Bool :=
  match Text.split '-' s.toList with
  | [a, b, c, d, e] =>
      [a, b, c, d, e].map List.length == [8, 4, 4, 4, 12] &&
        [a, b, c, d, e].all (·.all isHexDigit) &&
        c.head? == some '4' &&
        d.head?.any (['8', '9', 'a', 'b'].contains ·)
  | _ => false

/-- A source of ids. -/
inductive IdSource where
  /-- Numbers after a stem. -/
  | numbered (stem : String) (next : Int)
  /-- Random numbers, which are all zero once the given ones are used up. -/
  | random (entropy : List Nat)
  /-- The id of each draw, and the number of draws so far. -/
  | listed (ids : Nat → String) (drawn : Nat)

namespace IdSource

/-- The id of a number. -/
def numberedId (stem : String) (n : Int) : String :=
  stem ++ "-" ++ toString n

/-- A fresh id, and the source that remains. -/
def draw : IdSource → String × IdSource
  | numbered stem n => (numberedId stem n, numbered stem (n + 1))
  | random [] => (randomId 0, random [])
  | random (n :: ns) => (randomId n, random ns)
  | listed ids k => (ids k, listed ids (k + 1))

@[simp] theorem draw_numbered (stem : String) (n : Int) :
    draw (numbered stem n) = (numberedId stem n, numbered stem (n + 1)) := rfl

end IdSource
end LinkRegistry
