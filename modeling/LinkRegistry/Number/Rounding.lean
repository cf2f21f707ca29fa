/-!
# Rounding of fractions

**Input.** A numerator and a denominator.

**Rule.** A fraction is rounded to a nearest integer.  Of two that are equally near,
one rounding takes the even one and the other takes the larger one.
-/

namespace LinkRegistry
namespace Number

/-- A nearest integer of `n / d`, the even one of two. -/
def roundHalfEven (n d : Nat) : Nat :=
  let q := n / d
  let r := n % d
  if 2 * r < d ∨ (2 * r = d ∧ q % 2 = 0) then q else q + 1

/-- A nearest integer of `n / d`, the larger one of two. -/
def roundHalfUp (n d : Nat) : Nat :=
  (2 * n + d) / (2 * d)

end Number
end LinkRegistry
