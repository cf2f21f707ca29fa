/-!
# Machine words

**Input.** An integer.

**Rule.** A machine word has 64 bits, one of them for the sign.
-/

namespace LinkRegistry
namespace Number

/-- The least natural number that does not fit a machine word. -/
def wordLimit : Nat := 9223372036854775808

/-- The integer fits a machine word. -/
def FitsWord (n : Int) : Prop :=
  -(wordLimit : Int) ≤ n ∧ n < (wordLimit : Int)

instance (n : Int) : Decidable (FitsWord n) :=
  inferInstanceAs (Decidable (_ ∧ _))

end Number
end LinkRegistry
