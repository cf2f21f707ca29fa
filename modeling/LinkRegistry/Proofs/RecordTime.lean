import LinkRegistry.Time.RecordText

/-!
# Timestamps in records

**Input.** Texts that a record may hold as a timestamp, and timestamps.

**Rule.** Reading takes many forms, and printing has one.  An offset that is read is zero or
at least a second long, since a fraction counts only behind a whole second, and exactly
such offsets are printed so that they read back.

**Results.**
* `legible_of_ofText?`: whatever the form, what is read is legible.
* `ofText?_text`: a legible timestamp reads back as printed, offset and all.
-/

namespace LinkRegistry
namespace Time

open Text

/-- The offset is zero or at least a second. -/
def Offset.Legible (o : Offset) : Prop :=
  o.micros = 0 ∨ microsPerSecond ≤ o.micros.natAbs

/-- The offset, if there is one, is zero or at least a second. -/
def Timestamp.Legible (t : Timestamp) : Prop :=
  ∀ o, t.offset = some o → o.Legible

section Reading

theorem legible_utc : Offset.utc.Legible := Or.inl rfl

theorem eq_of_ofMicros? {n : Int} {o : Offset} (h : Offset.ofMicros? n = some o) :
    o.micros = n := by
  unfold Offset.ofMicros? at h
  split at h
  · cases h
    rfl
  · cases h

theorem legible_of_offsetOf? {negative : Bool} {f : ClockFields} {o : Offset}
    (h : offsetOf? negative f = some o) : o.Legible := by
  have hmicros := eq_of_ofMicros? h
  by_cases hseconds : f.seconds = 0
  · left
    rw [hmicros, if_pos hseconds]
    cases negative <;> rfl
  · right
    have hlarge : microsPerSecond ≤ f.seconds * microsPerSecond + f.micro := by
      have hone : 1 ≤ f.seconds := Nat.pos_of_ne_zero hseconds
      have hmul := Nat.mul_le_mul_right microsPerSecond hone
      omega
    rw [hmicros, if_neg hseconds]
    cases negative with
    | true =>
        rw [if_pos rfl, Int.natAbs_neg]
        exact hlarge
    | false => exact hlarge

theorem legible_of_zone? {complete : Bool} {cs : List Char} {o : Offset}
    (h : zone? complete cs = some (some o)) : o.Legible := by
  unfold zone? at h
  split at h
  · split at h <;> cases h
  · split at h
    · cases h
      exact legible_utc
    · cases h
  · obtain ⟨c, -, h⟩ := Option.bind_eq_some_iff.mp h
    split at h
    · obtain ⟨o', ho', h⟩ := Option.map_eq_some_iff.mp h
      cases h
      exact legible_of_offsetOf? ho'
    · cases h

theorem legible_of_afterDate? {d : Date} {cs : List Char} {t : Timestamp}
    (h : afterDate? d cs = some t) : t.Legible := by
  intro o ho
  cases cs with
  | nil =>
      cases h
      cases ho
  | cons c cs =>
      obtain ⟨clock, -, h⟩ := Option.bind_eq_some_iff.mp h
      obtain ⟨time, -, h⟩ := Option.bind_eq_some_iff.mp h
      obtain ⟨zone, hzone, h⟩ := Option.bind_eq_some_iff.mp h
      cases h
      cases ho
      exact legible_of_zone? hzone

/-- Once the date is settled, only what follows it can bring an offset. -/
theorem legible_of_bind_afterDate? {date : Option Date} {cs : List Char} {t : Timestamp}
    (h : date.bind (afterDate? · cs) = some t) : t.Legible := by
  obtain ⟨d, -, h⟩ := Option.bind_eq_some_iff.mp h
  exact legible_of_afterDate? h

theorem legible_of_afterExtendedWeek? {y w : Nat} {cs : List Char} {t : Timestamp}
    (h : afterExtendedWeek? y w cs = some t) : t.Legible := by
  unfold afterExtendedWeek? at h
  split at h
  · split at h
    · exact legible_of_bind_afterDate? h
    · obtain ⟨d, -, h⟩ := Option.bind_eq_some_iff.mp h
      exact legible_of_bind_afterDate? h
  · exact legible_of_bind_afterDate? h

theorem legible_of_afterBasicWeek? {y w : Nat} {cs : List Char} {t : Timestamp}
    (h : afterBasicWeek? y w cs = some t) : t.Legible := by
  cases cs with
  | nil => exact legible_of_bind_afterDate? h
  | cons c cs =>
      simp only [afterBasicWeek?] at h
      split at h
      · obtain ⟨d, -, h⟩ := Option.bind_eq_some_iff.mp h
        exact legible_of_bind_afterDate? h
      · exact legible_of_bind_afterDate? h

theorem legible_of_afterYear? {y : Nat} {cs : List Char} {t : Timestamp}
    (h : afterYear? y cs = some t) : t.Legible := by
  unfold afterYear? at h
  split at h
  · obtain ⟨p, -, h⟩ := Option.bind_eq_some_iff.mp h
    exact legible_of_afterExtendedWeek? h
  · obtain ⟨p, -, h⟩ := Option.bind_eq_some_iff.mp h
    exact legible_of_afterBasicWeek? h
  · obtain ⟨⟨m, r⟩, -, h⟩ := Option.bind_eq_some_iff.mp h
    dsimp only at h
    split at h
    · obtain ⟨q, -, h⟩ := Option.bind_eq_some_iff.mp h
      exact legible_of_bind_afterDate? h
    · cases h
  · obtain ⟨p, -, h⟩ := Option.bind_eq_some_iff.mp h
    obtain ⟨q, -, h⟩ := Option.bind_eq_some_iff.mp h
    exact legible_of_bind_afterDate? h

theorem legible_of_ofText? {s : String} {t : Timestamp} (h : Timestamp.ofText? s = some t) :
    t.Legible := by
  obtain ⟨p, -, h⟩ := Option.bind_eq_some_iff.mp h
  exact legible_of_afterYear? h

end Reading

section Printing

theorem isZoneMark_digit (n : Nat) : isZoneMark (digit n) = false := by
  have small : ∀ d, d < 10 → isZoneMark (Char.ofNat (48 + d)) = false := by decide
  exact small (n % 10) (Nat.mod_lt n (by decide))

theorem digit_ne_W (n : Nat) : digit n ≠ 'W' := by
  have small : ∀ d, d < 10 → Char.ofNat (48 + d) ≠ 'W' := by decide
  exact small (n % 10) (Nat.mod_lt n (by decide))

theorem isZoneMark_padded {w n : Nat} {c : Char} (h : c ∈ padded w n) : isZoneMark c = false := by
  induction w generalizing n with
  | zero => cases h
  | succ w ih =>
      rcases List.mem_append.mp h with h | h
      · exact ih h
      · cases List.mem_singleton.mp h
        exact isZoneMark_digit n

theorem isZoneMark_fractionText {u : Nat} {c : Char} (h : c ∈ fractionText u) :
    isZoneMark c = false := by
  unfold fractionText at h
  split at h
  · cases h
  · rcases List.mem_cons.mp h with rfl | h
    · decide
    · exact isZoneMark_padded h

/-- A printed clock reading holds digits, colons and a point, none of which begins an offset. -/
theorem isZoneMark_text {t : TimeOfDay} {c : Char} (h : c ∈ t.text) : isZoneMark c = false := by
  unfold TimeOfDay.text at h
  rcases List.mem_append.mp h with h | h
  · exact isZoneMark_padded h
  · rcases List.mem_cons.mp h with rfl | h
    · decide
    · rcases List.mem_append.mp h with h | h
      · exact isZoneMark_padded h
      · rcases List.mem_cons.mp h with rfl | h
        · decide
        · rcases List.mem_append.mp h with h | h
          · exact isZoneMark_padded h
          · exact isZoneMark_fractionText h

theorem takeNumber_of_lt {w n : Nat} (h : n < tenPower w) (rest : List Char) :
    takeNumber w 0 (padded w n ++ rest) = some (n, rest) := by
  rw [takeNumber_padded, Nat.zero_mul, Nat.zero_add, Nat.mod_eq_of_lt h]

theorem clock?_hourMinute {h m : Nat} (hh : h < tenPower 2) (hm : m < tenPower 2) :
    clock? (padded 2 h ++ ':' :: padded 2 m) = some ⟨⟨h, m, 0, 0⟩, true⟩ := by
  have hhour := takeNumber_of_lt hh (':' :: padded 2 m)
  have hminute := takeNumber_of_lt hm []
  rw [List.append_nil] at hminute
  have hcolon : continuation? true (':' :: padded 2 m) = some (.field (padded 2 m)) :=
    continuation?_colon _ (by simp [padded])
  have hend : continuation? true [] = some (.stop true) := rfl
  simp [clock?, minutes?, hhour, hcolon, hminute, hend]

/-- The fields of an offset of that many microseconds, without its sign. -/
def offsetFields (n : Nat) : ClockFields where
  hour := n / microsPerSecond / 3600
  minute := n / microsPerSecond / 60 % 60
  second := n / microsPerSecond % 60
  micro := n % microsPerSecond

theorem seconds_offsetFields (n : Nat) : (offsetFields n).seconds = n / microsPerSecond := by
  unfold offsetFields ClockFields.seconds
  dsimp only
  omega

/-- The text of an offset is its sign and a complete clock reading of its size. -/
theorem clock?_offset (o : Offset) :
    ∃ cs, o.text = (if o.micros < 0 then '-' else '+') :: cs ∧
      clock? cs = some ⟨offsetFields o.micros.natAbs, true⟩ := by
  refine ⟨_, rfl, ?_⟩
  let n := o.micros.natAbs
  let s := n / microsPerSecond
  let u := n % microsPerSecond
  have hday : n < 86400 * microsPerSecond := by
    have hrange := o.inRange
    change o.micros.natAbs < 86400 * 1000000
    omega
  have hs : s < 86400 := Nat.div_lt_of_lt_mul (Nat.mul_comm 86400 microsPerSecond ▸ hday)
  have hu : u < 1000000 := Nat.mod_lt n (by decide)
  change clock? (padded 2 (s / 3600) ++ ':' :: (padded 2 (s / 60 % 60) ++
    if s % 60 = 0 ∧ u = 0 then [] else ':' :: (padded 2 (s % 60) ++ fractionText u))) = _
  by_cases hwhole : s % 60 = 0 ∧ u = 0
  · have hclock : clock? (padded 2 (s / 3600) ++ ':' :: padded 2 (s / 60 % 60)) =
        some ⟨⟨s / 3600, s / 60 % 60, 0, 0⟩, true⟩ :=
      clock?_hourMinute (show s / 3600 < 100 by omega) (show s / 60 % 60 < 100 by omega)
    have hfields : offsetFields n = ⟨s / 3600, s / 60 % 60, 0, 0⟩ := by
      unfold offsetFields
      rw [show n / microsPerSecond % 60 = 0 from hwhole.1,
        show n % microsPerSecond = 0 from hwhole.2]
    rw [if_pos hwhole, List.append_nil, hclock, hfields]
  · let t : TimeOfDay := ⟨s / 3600, s / 60 % 60, s % 60, u, by omega⟩
    rw [if_neg hwhole]
    exact clock?_text t

theorem offsetOf?_legible {o : Offset} (ho : o.Legible) :
    offsetOf? (decide (o.micros < 0)) (offsetFields o.micros.natAbs) = some o := by
  have hsize : (if (offsetFields o.micros.natAbs).seconds = 0 then 0
      else (offsetFields o.micros.natAbs).seconds * microsPerSecond +
        (offsetFields o.micros.natAbs).micro) = o.micros.natAbs := by
    rw [seconds_offsetFields]
    rcases ho with hzero | hlarge
    · rw [hzero]
      rfl
    · have hpos : 0 < o.micros.natAbs / microsPerSecond := Nat.div_pos hlarge (by decide)
      rw [if_neg (Nat.ne_of_gt hpos)]
      exact Nat.div_add_mod' o.micros.natAbs microsPerSecond
  unfold offsetOf?
  dsimp only
  rw [hsize]
  by_cases hneg : o.micros < 0
  · rw [decide_eq_true hneg, if_pos rfl, Int.ofNat_natAbs_of_nonpos (Int.le_of_lt hneg),
      Int.neg_neg, Offset.ofMicros?_micros]
  · rw [decide_eq_false hneg, if_neg Bool.false_ne_true,
      Int.natAbs_of_nonneg (Int.not_lt.mp hneg), Offset.ofMicros?_micros]

theorem zone?_minus (complete : Bool) (cs : List Char) :
    zone? complete ('-' :: cs) = (clock? cs).bind fun c =>
      if c.complete then (offsetOf? true c.fields).map some else none :=
  rfl

theorem zone?_plus (complete : Bool) (cs : List Char) :
    zone? complete ('+' :: cs) = (clock? cs).bind fun c =>
      if c.complete then (offsetOf? false c.fields).map some else none :=
  rfl

/-- A printed offset begins with its mark and reads back. -/
theorem zone?_text {o : Offset} (ho : o.Legible) (complete : Bool) :
    ∃ c cs, o.text = c :: cs ∧ isZoneMark c = true ∧ zone? complete (c :: cs) = some (some o) := by
  obtain ⟨cs, htext, hclock⟩ := clock?_offset o
  have hoffset := offsetOf?_legible ho
  by_cases hneg : o.micros < 0
  · rw [decide_eq_true hneg] at hoffset
    rw [if_pos hneg] at htext
    refine ⟨'-', cs, htext, by decide, ?_⟩
    rw [zone?_minus, hclock, Option.bind_some, if_pos rfl, hoffset, Option.map_some]
  · rw [decide_eq_false hneg] at hoffset
    rw [if_neg hneg] at htext
    refine ⟨'+', cs, htext, by decide, ?_⟩
    rw [zone?_plus, hclock, Option.bind_some, if_pos rfl, hoffset, Option.map_some]

theorem monthLength_le (y m : Nat) : monthLength y m ≤ 31 := by
  unfold monthLength
  grind

theorem monthLength_of_lt {m : Nat} (y : Nat) (h : 12 < m) : monthLength y m = 0 := by
  unfold monthLength
  split <;> omega

theorem Date.month_le (a : Date) : a.month ≤ 12 := by
  refine Nat.le_of_not_lt fun hm => ?_
  have hnone := monthLength_of_lt a.year hm
  obtain ⟨-, -, hd, hlength⟩ := a.isDay
  omega

theorem Date.day_le (a : Date) : a.day ≤ 31 := by
  obtain ⟨-, -, -, hlength⟩ := a.isDay
  exact Nat.le_trans hlength (monthLength_le a.year a.month)

theorem afterYear?_hyphenated {y m d : Nat} {c : Char} {cs r rest : List Char} (hc : c ≠ 'W')
    (hm : takeNumber 2 0 (c :: cs) = some (m, '-' :: r))
    (hd : takeNumber 2 0 r = some (d, rest)) :
    afterYear? y ('-' :: c :: cs) = (Date.ofFields? y m d).bind (afterDate? · rest) := by
  unfold afterYear?
  split
  · rename_i h
    cases h
    exact absurd rfl hc
  · rename_i h
    cases h
  · rename_i h
    cases h
    simp [hm, hd]
  · rename_i h
    exact absurd rfl (h _)

/-- A printed date is read as the hyphenated form, and what follows it is left. -/
theorem afterYear?_text (a : Date) (rest : List Char) :
    afterYear? a.year ('-' :: (padded 2 a.month ++ '-' :: (padded 2 a.day ++ rest))) =
      afterDate? a rest := by
  have hmonth : a.month < tenPower 2 := Nat.lt_of_le_of_lt a.month_le (by decide)
  have hday : a.day < tenPower 2 := Nat.lt_of_le_of_lt a.day_le (by decide)
  have hm := takeNumber_of_lt hmonth ('-' :: (padded 2 a.day ++ rest))
  have hd := takeNumber_of_lt hday rest
  -- the month begins with a digit, so the hyphen before it does not begin a week
  have hread := afterYear?_hyphenated (y := a.year) (digit_ne_W (a.month / 10)) hm hd
  rw [Date.ofFields?_fields, Option.bind_some] at hread
  exact hread

/-- The printed date and clock reading of a timestamp, with a text for its offset behind
them. -/
def Timestamp.textWith (t : Timestamp) (zone : List Char) : String :=
  String.ofList (t.date.text ++ 'T' :: (t.time.text ++ zone))

theorem Timestamp.text_eq (t : Timestamp) :
    t.text = t.textWith (t.offset.elim [] Offset.text) := by
  unfold Timestamp.text Timestamp.textWith
  cases t.offset <;> rfl

theorem Timestamp.toList_textWith (t : Timestamp) (zone : List Char) :
    (t.textWith zone).toList = padded 4 t.date.year ++
      '-' :: (padded 2 t.date.month ++ '-' :: (padded 2 t.date.day ++
        'T' :: (t.time.text ++ zone))) := by
  simp [textWith, Date.text]

/-- A clock reading ends where the text for the offset begins. -/
theorem afterDate?_zone {t : Timestamp} {zone : List Char}
    (hmark : ∀ c ∈ zone.head?, isZoneMark c = true)
    (hzone : zone? true zone = some t.offset) :
    afterDate? t.date ('T' :: (t.time.text ++ zone)) = some t := by
  have hmarks : ∀ c ∈ t.time.text, (!isZoneMark c) = true := by
    intro c hc
    rw [isZoneMark_text hc]
    rfl
  have hsplit : (zone.takeWhile fun c => !isZoneMark c) = [] ∧
      (zone.dropWhile fun c => !isZoneMark c) = zone := by
    cases zone with
    | nil => exact ⟨rfl, rfl⟩
    | cons c cs => simp [hmark c rfl]
  have hclock : clock? ((t.time.text ++ zone).takeWhile fun c => !isZoneMark c) =
      some ⟨⟨t.time.hour, t.time.minute, t.time.second, t.time.micro⟩, true⟩ := by
    rw [List.takeWhile_append_of_pos hmarks, hsplit.1, List.append_nil, clock?_text]
  have hfields : ClockFields.toTimeOfDay?
      ⟨t.time.hour, t.time.minute, t.time.second, t.time.micro⟩ = some t.time :=
    TimeOfDay.ofFields?_fields t.time
  simp only [afterDate?, hclock, hfields, Option.bind_eq_bind, Option.bind_some,
    List.dropWhile_append_of_pos hmarks, hsplit.2, hzone]
  rfl

/-- A timestamp reads back from its date, its clock reading and any text that is read as its
offset. -/
theorem ofText?_textWith {t : Timestamp} {zone : List Char}
    (hmark : ∀ c ∈ zone.head?, isZoneMark c = true)
    (hzone : zone? true zone = some t.offset) :
    Timestamp.ofText? (t.textWith zone) = some t := by
  have hyear : t.date.year < tenPower 4 :=
    Nat.lt_of_le_of_lt t.date.isDay.2.1 (by decide)
  unfold Timestamp.ofText?
  rw [t.toList_textWith, takeNumber_of_lt hyear]
  exact (afterYear?_text t.date _).trans (afterDate?_zone hmark hzone)

/-- A legible timestamp reads back as printed: the same fields and the same offset. -/
theorem ofText?_text {t : Timestamp} (ht : t.Legible) : Timestamp.ofText? t.text = some t := by
  rw [t.text_eq]
  cases ho : t.offset with
  | none =>
      have hread : zone? true [] = some t.offset := by
        rw [ho]
        rfl
      exact ofText?_textWith (fun _ hc => nomatch hc) hread
  | some o =>
      obtain ⟨c, cs, htext, hmark, hread⟩ := zone?_text (ht o ho) true
      rw [Option.elim_some, htext]
      refine ofText?_textWith ?_ (hread.trans (congrArg some ho.symm))
      intro c' hc
      cases hc
      exact hmark

end Printing
end Time
end LinkRegistry
