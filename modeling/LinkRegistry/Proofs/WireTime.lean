import LinkRegistry.Proofs.RecordTime
import LinkRegistry.Wire.Scalar

/-!
# Timestamps on the wire

**Input.** Values that a message may hold as a timestamp, and timestamps.

**Rule.** A message takes a time in many forms, but an offset only in hours and minutes, and a
number counts from 1970 in UTC.  Records and messages print such an offset alike, except that
messages print none at all as `Z`, and both of them read a zero, a `Z` and any other printed
offset of whole minutes as the same offset.

**Results.**
* `wholeMinutes_of_time`: whatever the form, the offset of what a message holds is of whole
  minutes.
* `ofWireText_wireText`, `ofWireText_text`: messages read a timestamp with such an offset back
  from either printed form.
* `ofText?_wireText`: records read it back from the wire form too.
-/

namespace LinkRegistry
namespace Time

open Text

/-- Microseconds of a minute. -/
def microsPerMinute : Nat := 60 * microsPerSecond

/-- The offset is of whole minutes. -/
def Offset.WholeMinutes (o : Offset) : Prop :=
  microsPerMinute ∣ o.micros.natAbs

/-- The offset, if there is one, is of whole minutes. -/
def Timestamp.WholeMinutes (t : Timestamp) : Prop :=
  ∀ o, t.offset = some o → o.WholeMinutes

section Reading

theorem wholeMinutes_utc : Offset.utc.WholeMinutes := Nat.dvd_zero _

theorem wholeMinutes_of_minutes {negative : Bool} {n : Nat} {o : Offset}
    (h : o.micros = if negative then -((n * 60 * microsPerSecond : Nat) : Int)
      else ((n * 60 * microsPerSecond : Nat) : Int)) : o.WholeMinutes := by
  have hsize : o.micros.natAbs = n * 60 * microsPerSecond := by
    rw [h]
    cases negative with
    | true => rw [if_pos rfl, Int.natAbs_neg, Int.natAbs_natCast]
    | false => exact Int.natAbs_natCast _
  unfold Offset.WholeMinutes
  rw [hsize, Nat.mul_assoc]
  exact Nat.dvd_mul_left microsPerMinute n

/-- Hours and minutes with or without a colon between them, and nothing else. -/
def IsHourMinute (cs : List Char) (h m : Nat) : Prop :=
  ∃ r, takeNumber 2 0 cs = some (h, r) ∧
    (takeNumber 2 0 r = some (m, []) ∨ ∃ r', r = ':' :: r' ∧ takeNumber 2 0 r' = some (m, []))

theorem offsetOf?_hourMinute (negative : Bool) (h m : Nat) :
    offsetOf? negative ⟨h, m, 0, 0⟩ =
      Offset.ofMicros? (if negative then -(((h * 60 + m) * 60 * microsPerSecond : Nat) : Int)
        else (((h * 60 + m) * 60 * microsPerSecond : Nat) : Int)) := by
  have hsize : (if (h * 60 + m) * 60 = 0 then 0 else (h * 60 + m) * 60 * microsPerSecond) =
      (h * 60 + m) * 60 * microsPerSecond := by
    split <;> simp_all
  unfold offsetOf? ClockFields.seconds
  simp only [Nat.add_zero, hsize]

/-- The forms in which a message takes an offset. -/
theorem wireZone?_cases {cs : List Char} {zone : Option Offset}
    (hread : wireZone? cs = some zone) :
    (cs = [] ∧ zone = none) ∨ ((cs = ['Z'] ∨ cs = ['z']) ∧ zone = some Offset.utc) ∨
      ∃ c tail negative h m, cs = c :: tail ∧ wireSign? c = some negative ∧
        IsHourMinute tail h m ∧ offsetOf? negative ⟨h, m, 0, 0⟩ = zone := by
  unfold wireZone? at hread
  split at hread
  · cases hread
    exact Or.inl ⟨rfl, rfl⟩
  · cases hread
    exact Or.inr (Or.inl ⟨Or.inl rfl, rfl⟩)
  · cases hread
    exact Or.inr (Or.inl ⟨Or.inr rfl, rfl⟩)
  · rename_i c tail _ _
    obtain ⟨negative, hsign, hread⟩ := Option.bind_eq_some_iff.mp hread
    obtain ⟨⟨h, r⟩, hh, hread⟩ := Option.bind_eq_some_iff.mp hread
    obtain ⟨⟨m, rest⟩, hm, hread⟩ := Option.bind_eq_some_iff.mp hread
    dsimp only at hread hm
    split at hread
    · rename_i hend
      obtain rfl := hend.2
      obtain ⟨o, ho, hread⟩ := Option.map_eq_some_iff.mp hread
      cases hread
      refine Or.inr (Or.inr ⟨c, tail, negative, h, m, rfl, hsign, ⟨r, hh, ?_⟩, ?_⟩)
      · split at hm
        · exact Or.inr ⟨_, rfl, hm⟩
        · exact Or.inl hm
      · rw [offsetOf?_hourMinute]
        exact ho
    · cases hread

theorem wholeMinutes_of_wireZone? {cs : List Char} {o : Offset}
    (hread : wireZone? cs = some (some o)) : o.WholeMinutes := by
  rcases wireZone?_cases hread with
    ⟨-, hzone⟩ | ⟨-, hzone⟩ | ⟨_, _, negative, h, m, -, -, -, hoffset⟩
  · cases hzone
  · cases hzone
    exact wholeMinutes_utc
  · rw [offsetOf?_hourMinute] at hoffset
    exact wholeMinutes_of_minutes (eq_of_ofMicros? hoffset)

theorem offset_of_ofUnixMicros? {n : Int} {t : Timestamp}
    (h : Timestamp.ofUnixMicros? n = some t) : t.offset = some Offset.utc := by
  unfold Timestamp.ofUnixMicros? at h
  dsimp only at h
  split at h
  · cases h
  · split at h
    · cases h
      rfl
    · cases h

theorem wholeMinutes_of_ofUnixMicros? {n : Int} {t : Timestamp}
    (h : Timestamp.ofUnixMicros? n = some t) : t.WholeMinutes := by
  intro o ho
  rw [offset_of_ofUnixMicros? h] at ho
  cases ho
  exact wholeMinutes_utc

theorem wholeMinutes_of_afterWireDate? {cs : List Char} {clock : TimeOfDay} {o : Offset}
    (h : afterWireDate? cs = some (clock, some o)) : o.WholeMinutes := by
  unfold afterWireDate? at h
  split at h
  · cases h
  · split at h
    · obtain ⟨⟨fields, r⟩, -, h⟩ := Option.bind_eq_some_iff.mp h
      obtain ⟨clock', -, h⟩ := Option.bind_eq_some_iff.mp h
      obtain ⟨zone, hzone, h⟩ := Option.bind_eq_some_iff.mp h
      cases h
      exact wholeMinutes_of_wireZone? hzone
    · cases h

theorem exists_of_wireDateTime {cs : List Char} {t : Timestamp} (h : wireDateTime cs = .ok t) :
    ∃ y m d rest, wireDate? cs = some (y, m, d, rest) ∧
      Date.ofFields? y m d = some t.date ∧ afterWireDate? rest = some (t.time, t.offset) := by
  unfold wireDateTime at h
  dsimp only at h
  split at h
  · cases h
  · rename_i hparts
    obtain ⟨⟨y, m, d, rest⟩, hdate, hparts⟩ := Option.bind_eq_some_iff.mp hparts
    obtain ⟨⟨clock, zone⟩, hafter, hparts⟩ := Option.bind_eq_some_iff.mp hparts
    cases hparts
    split at h
    · rename_i hfields
      cases h
      exact ⟨y, m, d, rest, hdate, hfields, hafter⟩
    · split at h <;> cases h

theorem wholeMinutes_of_wireDateTime {cs : List Char} {t : Timestamp}
    (h : wireDateTime cs = .ok t) : t.WholeMinutes := by
  obtain ⟨y, m, d, rest, -, -, hafter⟩ := exists_of_wireDateTime h
  intro o ho
  rw [ho] at hafter
  exact wholeMinutes_of_afterWireDate? hafter

theorem ofUnixMicros?_of_wireInstant {n : Int} {t : Timestamp} (h : wireInstant n = .ok t) :
    Timestamp.ofUnixMicros? n = some t := by
  unfold wireInstant at h
  split at h
  · rename_i hread
    cases h
    exact hread
  · dsimp only at h
    split at h <;> cases h

/-- What a message takes for a time is a date, or else a numeral that counts from 1970. -/
theorem ofWireText_cases {s : String} {t : Timestamp} (h : Timestamp.ofWireText s = .ok t) :
    wireDateTime s.toList = .ok t ∨
      ∃ d n, Decimal.ofText? s.toList = some d ∧ microsOfNumeral? d = some n ∧
        Timestamp.ofUnixMicros? n = some t := by
  unfold Timestamp.ofWireText at h
  split at h
  · split at h
    · rename_i n hn
      obtain ⟨d, hd, hmicros⟩ := Option.bind_eq_some_iff.mp hn
      exact Or.inr ⟨d, n, hd, hmicros, ofUnixMicros?_of_wireInstant h⟩
    · cases h
  · exact Or.inl h

theorem wholeMinutes_of_ofWireText {s : String} {t : Timestamp}
    (h : Timestamp.ofWireText s = .ok t) : t.WholeMinutes := by
  rcases ofWireText_cases h with hdate | ⟨d, n, -, -, hinstant⟩
  · exact wholeMinutes_of_wireDateTime hdate
  · exact wholeMinutes_of_ofUnixMicros? hinstant

end Reading

section Printing

/-- The size of the offset in whole minutes. -/
def Offset.minutes (o : Offset) : Nat :=
  o.micros.natAbs / microsPerMinute

/-- Sign, hours and minutes of an offset. -/
def Offset.minutesText (o : Offset) : List Char :=
  (if o.micros < 0 then '-' else '+') ::
    (padded 2 (o.minutes / 60) ++ ':' :: padded 2 (o.minutes % 60))

theorem Offset.minutes_lt (o : Offset) : o.minutes < 1440 := by
  have hrange := o.inRange
  unfold minutes microsPerMinute microsPerSecond
  omega

theorem Offset.WholeMinutes.natAbs_eq {o : Offset} (ho : o.WholeMinutes) :
    o.micros.natAbs = o.minutes * 60 * microsPerSecond := by
  unfold minutes
  rw [Nat.mul_assoc]
  exact (Nat.div_mul_cancel ho).symm

theorem Offset.WholeMinutes.legible {o : Offset} (ho : o.WholeMinutes) : o.Legible := by
  have hsize := ho.natAbs_eq
  unfold Offset.Legible
  unfold microsPerSecond at hsize ⊢
  omega

theorem Offset.WholeMinutes.text_eq {o : Offset} (ho : o.WholeMinutes) :
    o.text = o.minutesText := by
  have hsize := ho.natAbs_eq
  have hseconds : o.micros.natAbs / microsPerSecond = o.minutes * 60 := by
    rw [hsize]
    exact Nat.mul_div_cancel _ (by decide)
  have hmicros : o.micros.natAbs % microsPerSecond = 0 := by
    rw [hsize]
    exact Nat.mul_mod_left _ _
  have hhours : o.minutes * 60 / 3600 = o.minutes / 60 := by omega
  unfold Offset.text minutesText
  simp [hseconds, hmicros, hhours]

theorem Offset.WholeMinutes.wireText_eq {o : Offset} (ho : o.WholeMinutes) :
    o.wireText = if o.minutes = 0 then ['Z'] else o.minutesText := by
  have hseconds : (o.micros.natAbs + microsPerSecond / 2) / microsPerSecond = o.minutes * 60 := by
    have hsize := ho.natAbs_eq
    unfold microsPerSecond at hsize ⊢
    omega
  have hhours : o.minutes * 60 / 3600 = o.minutes / 60 := by omega
  unfold Offset.wireText minutesText
  by_cases hzero : o.minutes = 0
  · simp [hseconds, hzero]
  · have hnonzero : o.minutes * 60 ≠ 0 := by omega
    simp [hseconds, hhours, hzero, hnonzero]

theorem wireZone?_signed {c : Char} {negative : Bool} {h m : Nat}
    (hc : wireSign? c = some negative) (hh : h < tenPower 2) (hm : m < 60) :
    wireZone? (c :: (padded 2 h ++ ':' :: padded 2 m)) =
      (Offset.ofMicros? (if negative then -(((h * 60 + m) * 60 * microsPerSecond : Nat) : Int)
        else (((h * 60 + m) * 60 * microsPerSecond : Nat) : Int))).map some := by
  have hhour := takeNumber_of_lt hh (':' :: padded 2 m)
  have hminute := takeNumber_of_lt (Nat.lt_trans hm (show 60 < tenPower 2 by decide)) []
  rw [List.append_nil] at hminute
  unfold wireZone?
  split
  · rename_i heq
    cases heq
  · rename_i heq
    cases heq
  · rename_i heq
    cases heq
  · rename_i heq
    cases heq
    simp [hc, hhour, hminute, hm]

/-- Sign, hours and minutes are read as the offset that they were printed for. -/
theorem Offset.WholeMinutes.wireZone?_minutesText {o : Offset} (ho : o.WholeMinutes) :
    wireZone? o.minutesText = some (some o) := by
  have hhours : o.minutes / 60 < tenPower 2 := by
    have hlt := o.minutes_lt
    change o.minutes / 60 < 100
    omega
  have hminutes : o.minutes % 60 < 60 := Nat.mod_lt _ (by decide)
  have hsize : (o.minutes / 60 * 60 + o.minutes % 60) * 60 * microsPerSecond =
      o.micros.natAbs := by
    rw [Nat.div_add_mod', ho.natAbs_eq]
  unfold minutesText
  by_cases hneg : o.micros < 0
  · have hsign : wireSign? '-' = some true := rfl
    rw [if_pos hneg, wireZone?_signed hsign hhours hminutes, hsize, if_pos rfl,
      Int.ofNat_natAbs_of_nonpos (Int.le_of_lt hneg), Int.neg_neg, Offset.ofMicros?_micros,
      Option.map_some]
  · have hsign : wireSign? '+' = some false := rfl
    rw [if_neg hneg, wireZone?_signed hsign hhours hminutes, hsize, if_neg Bool.false_ne_true,
      Int.natAbs_of_nonneg (Int.not_lt.mp hneg), Offset.ofMicros?_micros, Option.map_some]

theorem Offset.WholeMinutes.eq_utc {o : Offset} (ho : o.WholeMinutes) (hzero : o.minutes = 0) :
    o = Offset.utc := by
  have hsize := ho.natAbs_eq
  rw [hzero, Nat.zero_mul] at hsize
  exact Offset.ext (Int.natAbs_eq_zero.mp hsize)

theorem Offset.WholeMinutes.wireZone?_wireText {o : Offset} (ho : o.WholeMinutes) :
    wireZone? o.wireText = some (some o) := by
  rw [ho.wireText_eq]
  split
  · rename_i hzero
    rw [ho.eq_utc hzero]
    rfl
  · exact ho.wireZone?_minutesText

theorem wireSign?_eq_some {c : Char} {negative : Bool} (h : wireSign? c = some negative) :
    digitValue? c = none ∧ c ≠ '.' ∧ c ≠ ',' ∧ c ≠ ':' := by
  refine ⟨?_, ?_, ?_, ?_⟩
  · unfold wireSign? at h
    split at h
    · rename_i hplus
      rw [eq_of_beq hplus]
      rfl
    · split at h
      · rename_i hminus
        rcases Bool.or_eq_true_iff.mp hminus with hhyphen | hmath
        · rw [eq_of_beq hhyphen]
          rfl
        · have hcode : c.toNat = 0x2212 := eq_of_beq hmath
          simp [digitValue?, hcode]
      · cases h
  all_goals
    rintro rfl
    cases h

/-- What begins an offset neither goes on with a clock reading nor begins a fraction. -/
theorem head?_of_wireZone? {cs : List Char} {zone : Option Offset}
    (hread : wireZone? cs = some zone) :
    startsWithDigit cs = false ∧ ∀ c ∈ cs.head?, c ≠ '.' ∧ c ≠ ',' ∧ c ≠ ':' := by
  rcases wireZone?_cases hread with
    ⟨rfl, -⟩ | ⟨rfl | rfl, -⟩ | ⟨c, tail, negative, h, m, rfl, hsign, -, -⟩
  · simp [startsWithDigit]
  · refine ⟨rfl, ?_⟩
    rintro c ⟨⟩
    decide
  · refine ⟨rfl, ?_⟩
    rintro c ⟨⟩
    decide
  · obtain ⟨hdigit, hmark⟩ := wireSign?_eq_some hsign
    simp [startsWithDigit, hdigit, hmark]

/-- Year, month and day are read back from a printed date. -/
theorem wireDate?_text (a : Date) (rest : List Char) :
    wireDate? (a.text ++ rest) = some (a.year, a.month, a.day, rest) := by
  have hyear : a.year < tenPower 4 := Nat.lt_of_le_of_lt a.isDay.2.1 (by decide)
  have hmonth : a.month < tenPower 2 := Nat.lt_of_le_of_lt a.month_le (by decide)
  have hday : a.day < tenPower 2 := Nat.lt_of_le_of_lt a.day_le (by decide)
  simp [wireDate?, Date.text, takeNumber_of_lt hyear, takeNumber_of_lt hmonth,
    takeNumber_of_lt hday]

/-- A timestamp is read from its date, its clock reading and any text that is read as its
offset. -/
theorem ofWireText_textWith {t : Timestamp} {zone : List Char}
    (hzone : wireZone? zone = some t.offset) :
    Timestamp.ofWireText (t.textWith zone) = .ok t := by
  obtain ⟨hdigits, hmark⟩ := head?_of_wireZone? hzone
  have hclock := wireClock?_text t.time zone hdigits fun c hc =>
    ⟨(hmark c hc).1, (hmark c hc).2.1⟩
  have hfields : ClockFields.toTimeOfDay?
      ⟨t.time.hour, t.time.minute, t.time.second, t.time.micro⟩ = some t.time :=
    TimeOfDay.ofFields?_fields t.time
  have hafter : afterWireDate? ('T' :: (t.time.text ++ zone)) = some (t.time, t.offset) := by
    simp [afterWireDate?, isWireSeparator, hclock, hfields, hzone]
  have hread : wireDateTime (t.textWith zone).toList = .ok t := by
    simp [wireDateTime, Timestamp.textWith, wireDate?_text, hafter]
  simp only [Timestamp.ofWireText, hread]

theorem Timestamp.wireText_eq (t : Timestamp) :
    t.wireText = t.textWith (t.offset.elim [] Offset.wireText) := by
  unfold Timestamp.wireText Timestamp.textWith
  cases t.offset with
  | none => rw [Option.elim_none]
  | some o => rw [Option.elim_some]

/-- Messages read a timestamp back from the wire form. -/
theorem ofWireText_wireText {t : Timestamp} (ht : t.WholeMinutes) :
    Timestamp.ofWireText t.wireText = .ok t := by
  rw [t.wireText_eq]
  refine ofWireText_textWith ?_
  cases ho : t.offset with
  | none => rfl
  | some o =>
      rw [Option.elim_some]
      exact (ht o ho).wireZone?_wireText

/-- Messages read a timestamp back from the record form. -/
theorem ofWireText_text {t : Timestamp} (ht : t.WholeMinutes) :
    Timestamp.ofWireText t.text = .ok t := by
  rw [t.text_eq]
  refine ofWireText_textWith ?_
  cases ho : t.offset with
  | none => rfl
  | some o =>
      rw [Option.elim_some, (ht o ho).text_eq]
      exact (ht o ho).wireZone?_minutesText

theorem Timestamp.WholeMinutes.legible {t : Timestamp} (ht : t.WholeMinutes) : t.Legible :=
  fun o ho => (ht o ho).legible

/-- Records read a timestamp back from the wire form. -/
theorem ofText?_wireText {t : Timestamp} (ht : t.WholeMinutes) :
    Timestamp.ofText? t.wireText = some t := by
  have hrecord := ofText?_text ht.legible
  rw [t.text_eq] at hrecord
  rw [t.wireText_eq]
  cases ho : t.offset with
  | none =>
      rw [ho, Option.elim_none] at hrecord
      rw [Option.elim_none]
      exact hrecord
  | some o =>
      have hminutes := ht o ho
      rw [ho, Option.elim_some, hminutes.text_eq] at hrecord
      rw [Option.elim_some, hminutes.wireText_eq]
      split
      · -- no offset is the one that messages print in another way
        rename_i hzero
        have hutc : t.offset = some Offset.utc := by rw [ho, hminutes.eq_utc hzero]
        have hzone : zone? true ['Z'] = some t.offset := by
          rw [hutc]
          rfl
        refine ofText?_textWith ?_ hzone
        intro c hc
        cases hc
        rfl
      · exact hrecord

end Printing

end Time

namespace Wire

theorem orFail_eq_ok_iff {α : Type} {c : Cause} {o : Option α} {a : α} :
    orFail c o = .ok a ↔ o = some a := by
  cases o <;> simp [orFail, Reading.fail]

theorem time_text_eq_ok_iff {s : String} {t : Time.Timestamp} :
    time (.text s) = .ok t ↔ Time.Timestamp.ofWireText s = .ok t := by
  unfold time
  dsimp only
  cases Time.Timestamp.ofWireText s with
  | ok t' => simp
  | error f => cases f <;> simp [Reading.fail]

theorem wholeMinutes_of_timeOfInteger {nearest : Option Double} {n : Int}
    {t : Time.Timestamp} (h : timeOfInteger nearest n = .ok t) : t.WholeMinutes := by
  cases nearest with
  | none => cases h
  | some x => exact Time.wholeMinutes_of_ofUnixMicros? (orFail_eq_ok_iff.mp h)

/-- Whatever the form, the offset of what is read is of whole minutes. -/
theorem wholeMinutes_of_time {j : Json} {t : Time.Timestamp} (h : time j = .ok t) :
    t.WholeMinutes := by
  unfold time at h
  split at h
  · -- a text
    exact Time.wholeMinutes_of_ofWireText (time_text_eq_ok_iff.mp h)
  · exact wholeMinutes_of_timeOfInteger h
  · cases h
  · -- a number of double precision
    obtain ⟨n, -, hread⟩ := Option.bind_eq_some_iff.mp (orFail_eq_ok_iff.mp h)
    exact Time.wholeMinutes_of_ofUnixMicros? hread
  · cases h

theorem time_timeJson {t : Time.Timestamp} (ht : t.WholeMinutes) :
    time (timeJson t) = .ok t :=
  time_text_eq_ok_iff.mpr (Time.ofWireText_wireText ht)

end Wire
end LinkRegistry
