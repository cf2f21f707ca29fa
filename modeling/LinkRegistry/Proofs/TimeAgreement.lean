import LinkRegistry.Proofs.ClockAgreement
import Mathlib.Data.List.TakeWhile

/-!
# Texts that records and messages both read as times

**Input.** A text that is read as a timestamp in both ways.

**Rule.** A message takes a date in hyphens, and what follows it, as a record does.  It takes any
other text for a number.  A record reads a number, if it does, as the digits of a date, and
finds no offset unless the number has an exponent.

**Results.**
* `eq_of_wireDateTime`: a text that a message takes for a date is the same time in both ways.
* `eq_of_not_numeral`: so is every text that is not a decimal numeral.
* `same_of_plainNumeral`: a numeral without an exponent never is.
-/

namespace LinkRegistry
namespace Time

open Text

section Dates

variable {cs rest : List Char}

theorem exists_of_wireDate? {y m d : Nat} (h : wireDate? cs = some (y, m, d, rest)) :
    ∃ r r', takeNumber 4 0 cs = some (y, '-' :: r) ∧ takeNumber 2 0 r = some (m, '-' :: r') ∧
      takeNumber 2 0 r' = some (d, rest) := by
  obtain ⟨⟨y', r⟩, hy, h⟩ := Option.bind_eq_some_iff.mp h
  dsimp only at h
  split at h
  · rename_i r
    obtain ⟨⟨m', r'⟩, hm, h⟩ := Option.bind_eq_some_iff.mp h
    dsimp only at h
    split at h
    · rename_i r'
      obtain ⟨⟨d', rest'⟩, hd, h⟩ := Option.bind_eq_some_iff.mp h
      cases h
      exact ⟨r, r', hy, hm, hd⟩
    · cases h
  · cases h

theorem exists_of_ofText? {s : String} {t : Timestamp} (h : Timestamp.ofText? s = some t) :
    ∃ y r, takeNumber 4 0 s.toList = some (y, r) ∧ afterYear? y r = some t := by
  obtain ⟨⟨y, r⟩, hy, h⟩ := Option.bind_eq_some_iff.mp h
  exact ⟨y, r, hy, h⟩

/-- A text that a message takes for a date, and that a record takes too, is the same time in
both ways. -/
theorem eq_of_wireDateTime {s : String} {t t' : Timestamp}
    (hread : wireDateTime s.toList = .ok t) (hrecord : Timestamp.ofText? s = some t') :
    t' = t := by
  obtain ⟨y, m, d, rest, hdate, hfields, hafter⟩ := exists_of_wireDateTime hread
  obtain ⟨r, r', hy, hm, hd⟩ := exists_of_wireDate? hdate
  obtain ⟨y', r'', hy', hrecord⟩ := exists_of_ofText? hrecord
  cases hy.symm.trans hy'
  -- the month begins with a digit, so the hyphen before it does not begin a week
  obtain ⟨c, tail, digit, rfl, hdigit, -⟩ := exists_of_takeNumber hm
  have hc : c ≠ 'W' := by
    rintro rfl
    cases hdigit
  rw [afterYear?_hyphenated hc hm hd, hfields, Option.bind_some] at hrecord
  exact afterDate?_of_afterWireDate? hafter hrecord

end Dates

section Numerals

variable {cs rest : List Char} {t t' : Timestamp}

/-- The text is a decimal numeral. -/
def IsNumeral (s : String) : Prop :=
  ∃ d, Decimal.ofText? s.toList = some d

/-- The text is a decimal numeral without an exponent. -/
def IsPlainNumeral (s : String) : Prop :=
  ∃ d, Decimal.ofText? s.toList = some d ∧ d.exponent = none

/-- The text has nothing but digits and points in it. -/
def IsPlain (cs : List Char) : Prop :=
  ∀ c ∈ cs, (digitValue? c).isSome ∨ c = '.'

theorem not_mem_of_isPlain {c : Char} (h : IsPlain cs) (hdigit : digitValue? c = none)
    (hpoint : c ≠ '.') : c ∉ cs := by
  intro hc
  rcases h c hc with hd | hp
  · rw [hdigit] at hd
    cases hd
  · exact hpoint hp

theorem isZoneMark_of_isPlain (h : IsPlain cs) : ∀ c ∈ cs, isZoneMark c = false := by
  intro c hc
  rcases h c hc with hd | rfl
  · obtain ⟨d, hd⟩ := Option.isSome_iff_exists.mp hd
    exact isZoneMark_of_digit hd
  · decide

theorem IsPlain.takeNumber {w acc n : Nat} (h : IsPlain cs)
    (hread : takeNumber w acc cs = some (n, rest)) : IsPlain rest :=
  fun c hc => h c ((suffix_of_takeNumber hread).subset hc)

theorem isPlain_of_takeDigits (cs : List Char) (h : IsPlain (takeDigits cs).2) : IsPlain cs := by
  induction cs with
  | nil => exact h
  | cons c cs ih =>
      cases hd : digitValue? c with
      | none =>
          simpa only [takeDigits, hd] using h
      | some d =>
          simp only [takeDigits, hd] at h
          intro c' hc'
          rcases List.mem_cons.mp hc' with rfl | hc'
          · exact Or.inl (Option.isSome_iff_exists.mpr ⟨d, hd⟩)
          · exact ih h c' hc'

theorem isPlain_nil : IsPlain [] := by
  rintro c ⟨⟩

theorem IsPlain.point (h : IsPlain cs) : IsPlain ('.' :: cs) := by
  intro c hc
  rcases List.mem_cons.mp hc with rfl | hc
  · exact Or.inr rfl
  · exact h c hc

theorem eq_nil_of_exponent? (h : exponent? cs = some none) : cs = [] := by
  unfold exponent? at h
  split at h
  · rfl
  · split at h
    · dsimp only at h
      split at h <;> cases h
    · cases h

theorem isPlain_of_takeMantissa? {n : Nat} {places : Option Nat}
    (h : takeMantissa? cs = some (n, places, [])) : IsPlain cs := by
  unfold takeMantissa? at h
  refine isPlain_of_takeDigits cs ?_
  split at h
  · rename_i ds r hdigits
    dsimp only at h
    split at h
    · cases h
    · simp only [Option.some.injEq, Prod.mk.injEq] at h
      have hrest : IsPlain (takeDigits r).2 := by
        rw [h.2.2]
        exact isPlain_nil
      rw [hdigits]
      exact (isPlain_of_takeDigits r hrest).point
  · rename_i ds r _ hdigits
    split at h
    · cases h
    · cases h
      rw [hdigits]
      exact isPlain_nil

theorem takeSign_of_digit {c : Char} {d : Nat} (hd : digitValue? c = some d)
    (tail : List Char) : takeSign (c :: tail) = (false, c :: tail) := by
  unfold takeSign
  split
  · rename_i heq
    cases heq
    cases hd
  · rename_i heq
    cases heq
    cases hd
  · rfl

/-- A numeral without an exponent that begins with a digit has only digits and points. -/
theorem isPlain_of_numeral {d : Decimal} (hread : Decimal.ofText? cs = some d)
    (hexponent : d.exponent = none) {n : Nat} (hdigits : takeNumber 4 0 cs = some (n, rest)) :
    IsPlain cs := by
  obtain ⟨c, tail, digit, rfl, hdigit, -⟩ := exists_of_takeNumber hdigits
  unfold Decimal.ofText? at hread
  rw [takeSign_of_digit hdigit] at hread
  obtain ⟨⟨n, places, r⟩, hmantissa, hread⟩ := Option.bind_eq_some_iff.mp hread
  obtain ⟨exponent, hexp, hread⟩ := Option.bind_eq_some_iff.mp hread
  cases hread
  cases hexponent
  cases eq_nil_of_exponent? hexp
  exact isPlain_of_takeMantissa? hmantissa

theorem offset_of_afterDate? {d : Date} (hplain : IsPlain cs) (h : afterDate? d cs = some t) :
    t.offset = none := by
  cases cs with
  | nil =>
      cases h
      rfl
  | cons c cs =>
      obtain ⟨reading, -, h⟩ := Option.bind_eq_some_iff.mp h
      obtain ⟨time, -, h⟩ := Option.bind_eq_some_iff.mp h
      obtain ⟨offset, hoffset, h⟩ := Option.bind_eq_some_iff.mp h
      cases h
      have hmarks : ∀ c' ∈ cs, (!isZoneMark c') = true := by
        intro c' hc'
        rw [isZoneMark_of_isPlain hplain c' (List.mem_cons_of_mem c hc')]
        rfl
      have hnone := List.dropWhile_eq_nil_iff.mpr hmarks
      rw [hnone] at hoffset
      unfold zone? at hoffset
      dsimp only at hoffset ⊢
      split at hoffset <;> cases hoffset
      rfl

/-- Digits and points alone are read as a date in basic form, which brings no offset. -/
theorem offset_of_afterYear? {y : Nat} (hplain : IsPlain cs) (h : afterYear? y cs = some t) :
    t.offset = none := by
  have hhyphen : '-' ∉ cs := not_mem_of_isPlain hplain (by decide) (by decide)
  have hweek : 'W' ∉ cs := not_mem_of_isPlain hplain (by decide) (by decide)
  unfold afterYear? at h
  split at h
  · exact absurd List.mem_cons_self hhyphen
  · exact absurd List.mem_cons_self hweek
  · exact absurd List.mem_cons_self hhyphen
  · obtain ⟨⟨m, r⟩, hm, h⟩ := Option.bind_eq_some_iff.mp h
    obtain ⟨⟨d, r'⟩, hd, h⟩ := Option.bind_eq_some_iff.mp h
    obtain ⟨date, -, h⟩ := Option.bind_eq_some_iff.mp h
    exact offset_of_afterDate? ((hplain.takeNumber hm).takeNumber hd) h

variable {s : String} (hread : Timestamp.ofWireText s = .ok t)
  (hrecord : Timestamp.ofText? s = some t')
include hread hrecord

/-- A text that both take is the same time in both ways unless it is a numeral. -/
theorem eq_of_not_numeral (h : ¬ IsNumeral s) : t' = t := by
  rcases ofWireText_cases hread with hdate | ⟨d, n, hd, -, -⟩
  · exact eq_of_wireDateTime hdate hrecord
  · exact absurd ⟨d, hd⟩ h

/-- A numeral without an exponent is a wall clock reading in a record, and an instant in a
message. -/
theorem same_of_plainNumeral (h : IsPlainNumeral s) : t'.same t = false := by
  obtain ⟨d, hd, hexponent⟩ := h
  obtain ⟨y, r, hy, hyear⟩ := exists_of_ofText? hrecord
  have hplain := isPlain_of_numeral hd hexponent hy
  rcases ofWireText_cases hread with hdate | ⟨d', n, -, -, hinstant⟩
  · obtain ⟨y', m', d', rest, hwire, -, -⟩ := exists_of_wireDateTime hdate
    obtain ⟨r', r'', hy', -, -⟩ := exists_of_wireDate? hwire
    have hhyphen : '-' ∉ s.toList := not_mem_of_isPlain hplain (by decide) (by decide)
    exact absurd ((suffix_of_takeNumber hy').subset List.mem_cons_self) hhyphen
  · have hlocal := offset_of_afterYear? (hplain.takeNumber hy) hyear
    have hutc := offset_of_ofUnixMicros? hinstant
    unfold Timestamp.same
    rw [hlocal, hutc]

end Numerals

end Time
end LinkRegistry
