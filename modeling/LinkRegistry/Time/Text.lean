import LinkRegistry.Text.Digit
import LinkRegistry.Time.Timestamp

/-!
# Written parts of a timestamp

**Input.** Characters.

**Rule.** A fraction of a second is a point or a comma and at least one digit; digits
after the sixth do not count.  Dates are printed with hyphens, and clock readings with
colons, a point, and six fraction digits unless the fraction is zero.

**Results.** A printed fraction reads back (`fraction?_fractionText`).
-/

namespace LinkRegistry
namespace Time

open Text

/-- Numbers read from a clock, whose ranges are not checked yet. -/
structure ClockFields where
  hour : Nat
  minute : Nat
  second : Nat
  micro : Nat
  deriving DecidableEq

namespace ClockFields

/-- The time of day that the fields name. -/
def toTimeOfDay? (f : ClockFields) : Option TimeOfDay :=
  TimeOfDay.ofFields? f.hour f.minute f.second f.micro

/-- The whole seconds. -/
def seconds (f : ClockFields) : Nat :=
  (f.hour * 60 + f.minute) * 60 + f.second

end ClockFields

/-- Value of the first `k` fraction digits, missing ones being zero. -/
def fractionValue : Nat → List Nat → Nat
  | 0, _ => 0
  | _ + 1, [] => 0
  | k + 1, d :: ds => d * tenPower k + fractionValue k ds

/-- Read a fraction of a second, in microseconds. -/
def fraction? : List Char → Option (Nat × List Char)
  | [] => some (0, [])
  | c :: cs =>
      if c == '.' || c == ',' then
        match takeDigits cs with
        | ([], _) => none
        | (ds, rest) => some (fractionValue 6 ds, rest)
      else some (0, c :: cs)

/-- A digit comes next. -/
def startsWithDigit : List Char → Bool
  | [] => false
  | c :: _ => (digitValue? c).isSome

/-- Written microseconds; zero is not written. -/
def fractionText (u : Nat) : List Char :=
  if u = 0 then [] else '.' :: padded 6 u

/-- Year, month and day with hyphens. -/
def Date.text (d : Date) : List Char :=
  padded 4 d.year ++ '-' :: (padded 2 d.month ++ '-' :: padded 2 d.day)

/-- Hours, minutes and seconds with colons, then the fraction. -/
def TimeOfDay.text (t : TimeOfDay) : List Char :=
  padded 2 t.hour ++
    ':' :: (padded 2 t.minute ++ ':' :: (padded 2 t.second ++ fractionText t.micro))

theorem takeDigits_padded_append (w n : Nat) (tail : List Char) :
    takeDigits (padded w n ++ tail) =
      ((takeDigits (padded w n)).1 ++ (takeDigits tail).1, (takeDigits tail).2) := by
  induction w generalizing n tail with
  | zero => simp [padded, takeDigits]
  | succ w ih => simp [padded, List.append_assoc, ih, takeDigits]

theorem takeDigits_padded (w n : Nat) (rest : List Char)
    (h : startsWithDigit rest = false) :
    takeDigits (padded w n ++ rest) = ((takeDigits (padded w n)).1, rest) := by
  have stop : takeDigits rest = ([], rest) := by
    cases rest with
    | nil => rfl
    | cons c cs =>
        have none_c : digitValue? c = none := by
          simpa [startsWithDigit, Option.isSome_eq_false_iff] using h
        simp [takeDigits, none_c]
  simp [takeDigits_padded_append, stop]

theorem takeDigits_padded_succ (w n : Nat) :
    (takeDigits (padded (w + 1) n)).1 = (takeDigits (padded w (n / 10))).1 ++ [n % 10] := by
  simp [padded, takeDigits_padded_append, takeDigits]

@[simp] theorem length_takeDigits_padded (w n : Nat) :
    (takeDigits (padded w n)).1.length = w := by
  induction w generalizing n with
  | zero => rfl
  | succ w ih => simp [takeDigits_padded_succ, ih]

theorem fractionValue_append (ds es : List Nat) (k : Nat) :
    fractionValue (ds.length + k) (ds ++ es) =
      fractionValue (ds.length + k) ds + fractionValue k es := by
  induction ds with
  | nil => cases k <;> simp [fractionValue]
  | cons d ds ih =>
      simp only [List.length_cons, List.cons_append, Nat.succ_add, fractionValue, ih]
      omega

theorem fractionValue_padded (w k n : Nat) :
    fractionValue (w + k) (takeDigits (padded w n)).1 = n % tenPower w * tenPower k := by
  induction w generalizing n k with
  | zero => cases k <;> simp [padded, takeDigits, fractionValue, tenPower, Nat.mod_one]
  | succ w ih =>
      have shape := fractionValue_append (takeDigits (padded w (n / 10))).1 [n % 10] (k + 1)
      rw [length_takeDigits_padded] at shape
      rw [takeDigits_padded_succ, show w + 1 + k = w + (k + 1) by omega, shape, ih (k + 1)]
      have last : fractionValue (k + 1) [n % 10] = n % 10 * tenPower k := by
        cases k <;> simp [fractionValue]
      rw [last, mod_tenPower_succ, tenPower, Nat.add_mul, Nat.mul_comm (tenPower k) 10,
        Nat.mul_assoc]

/-- A printed fraction reads back. -/
theorem fraction?_fractionText (u : Nat) (rest : List Char) (hu : u < 1000000)
    (digits : startsWithDigit rest = false)
    (mark : ∀ c ∈ rest.head?, c ≠ '.' ∧ c ≠ ',') :
    fraction? (fractionText u ++ rest) = some (u, rest) := by
  by_cases hz : u = 0
  · subst hz
    cases rest with
    | nil => rfl
    | cons c cs =>
        have := mark c (by simp)
        simp [fractionText, fraction?, this.1, this.2]
  · have value := fractionValue_padded 6 0 u
    have nonempty : ∃ d ds, (takeDigits (padded 6 u)).1 = d :: ds := by
      cases h : (takeDigits (padded 6 u)).1 with
      | nil =>
          rw [h] at value
          simp [fractionValue, tenPower] at value
          omega
      | cons d ds => exact ⟨d, ds, rfl⟩
    obtain ⟨d, ds, hd⟩ := nonempty
    rw [hd] at value
    have exact : fractionValue 6 (d :: ds) = u := by
      simpa [tenPower, Nat.mod_eq_of_lt hu] using value
    simp [fractionText, hz, fraction?, takeDigits_padded 6 u rest digits, hd, exact]

end Time
end LinkRegistry
