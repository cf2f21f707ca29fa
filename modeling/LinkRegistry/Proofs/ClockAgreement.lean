import LinkRegistry.Proofs.WireTime

/-!
# Clock readings and offsets that records and messages both read

**Input.** What follows a date, in a text that is read as a timestamp in both ways.

**Rule.** A message looks for an offset where the clock reading ends, and a record at the first
mark that begins one.  A clock reading has no such marks in it, so the two find the same
offset.  Where a message knows a mark that a record does not, the record takes it for
characters left over behind the clock reading, and refuses the text.

**Results.**
* `fraction?_eq_some_iff`, `wireSeconds?_eq_some_iff`, `wireMinutes?_eq_some_iff`,
  `wireClock?_eq_some_iff`: what each reading of a message takes, and what it leaves.
* `StopsAtZone`, with one lemma for each of them: reading a clock is over before the first mark
  of an offset.
* `clock?_of_wireClock?`, `zone?_of_wireZone?`: the clock reading and the offset are the same in
  a record.
* `afterDate?_of_afterWireDate?`: and so is all that follows a date.
-/

namespace LinkRegistry
namespace Time

open Text

/-- The text up to the first mark of an offset. -/
def beforeZone (cs : List Char) : List Char :=
  cs.takeWhile fun c => !isZoneMark c

/-- The text from the first mark of an offset. -/
def fromZone (cs : List Char) : List Char :=
  cs.dropWhile fun c => !isZoneMark c

section Digits

variable {cs rest : List Char} {w acc n : Nat}

theorem exists_of_takeNumber (h : takeNumber (w + 1) acc cs = some (n, rest)) :
    ∃ c tail d, cs = c :: tail ∧ digitValue? c = some d ∧
      takeNumber w (acc * 10 + d) tail = some (n, rest) := by
  cases cs with
  | nil => cases h
  | cons c tail =>
      simp only [takeNumber] at h
      split at h
      · rename_i d hd
        exact ⟨c, tail, d, rfl, hd, h⟩
      · cases h

theorem ne_nil_of_takeNumber (h : takeNumber (w + 1) acc cs = some (n, rest)) :
    cs ≠ [] := by
  obtain ⟨c, tail, d, rfl, -, -⟩ := exists_of_takeNumber h
  exact List.cons_ne_nil c tail

theorem suffix_of_takeNumber (h : takeNumber w acc cs = some (n, rest)) :
    rest <:+ cs := by
  induction w generalizing acc cs with
  | zero =>
      cases h
      exact List.suffix_rfl
  | succ w ih =>
      obtain ⟨c, tail, d, rfl, -, htail⟩ := exists_of_takeNumber h
      exact (ih htail).trans (List.suffix_cons c tail)

end Digits

section Marks

variable {c : Char} (cs : List Char)

theorem isZoneMark_of_digit {d : Nat} (h : digitValue? c = some d) : isZoneMark c = false := by
  cases hc : isZoneMark c with
  | false => rfl
  | true =>
      simp only [isZoneMark, Bool.or_eq_true, beq_iff_eq] at hc
      rcases hc with (rfl | rfl) | rfl <;> cases h

theorem beforeZone_cons (hc : isZoneMark c = false) :
    beforeZone (c :: cs) = c :: beforeZone cs := by
  simp [beforeZone, hc]

theorem fromZone_cons (hc : isZoneMark c = false) : fromZone (c :: cs) = fromZone cs := by
  simp [fromZone, hc]

theorem beforeZone_of_mark (hc : isZoneMark c = true) : beforeZone (c :: cs) = [] := by
  simp [beforeZone, hc]

theorem fromZone_of_mark (hc : isZoneMark c = true) : fromZone (c :: cs) = c :: cs := by
  simp [fromZone, hc]

/-- What comes before an offset begins as the text does, unless there is nothing before it. -/
theorem head?_beforeZone (h : c ∈ (beforeZone cs).head?) : c ∈ cs.head? := by
  cases cs with
  | nil => exact h
  | cons c' cs =>
      cases hc : isZoneMark c' with
      | false =>
          rw [beforeZone_cons cs hc] at h
          exact h
      | true =>
          rw [beforeZone_of_mark cs hc] at h
          cases h

end Marks

section Clock

variable {cs rest : List Char}

theorem fraction?_eq_some_iff {u : Nat} :
    fraction? cs = some (u, rest) ↔
      (∃ c digits tail, cs = c :: tail ∧ (c = '.' ∨ c = ',') ∧
        takeDigits tail = (digits, rest) ∧ digits ≠ [] ∧ u = fractionValue 6 digits) ∨
      (∀ c ∈ cs.head?, c ≠ '.' ∧ c ≠ ',') ∧ u = 0 ∧ rest = cs := by
  cases cs with
  | nil => simp [fraction?, eq_comm]
  | cons c tail =>
      by_cases hc : c = '.' ∨ c = ','
      · obtain ⟨digits, r, hdigits⟩ : ∃ digits r, takeDigits tail = (digits, r) := ⟨_, _, rfl⟩
        cases digits with
        | nil =>
            simp only [fraction?]
            grind
        | cons d ds =>
            simp only [fraction?]
            grind
      · simp only [fraction?]
        grind

theorem wireSeconds?_eq_some_iff {h m : Nat} {f : ClockFields} :
    wireSeconds? h m cs = some (f, rest) ↔
      ∃ s r u, takeNumber 2 0 cs = some (s, r) ∧ fraction? r = some (u, rest) ∧
        f = ⟨h, m, s, u⟩ := by
  simp only [wireSeconds?, Option.bind_eq_bind, Option.bind_eq_some_iff, Prod.exists]
  simp [eq_comm]

theorem wireMinutes?_eq_some_iff {h : Nat} {f : ClockFields} :
    wireMinutes? h cs = some (f, rest) ↔
      ∃ m r, takeNumber 2 0 cs = some (m, r) ∧
        ((∃ r', r = ':' :: r' ∧ wireSeconds? h m r' = some (f, rest)) ∨
          r.head? ≠ some ':' ∧ f = ⟨h, m, 0, 0⟩ ∧ rest = r) := by
  simp only [wireMinutes?, Option.bind_eq_bind, Option.bind_eq_some_iff, Prod.exists]
  refine exists_congr fun m => exists_congr fun r => and_congr_right fun _ => ?_
  split <;> simp_all [List.head?_eq_some_iff, eq_comm]

theorem wireClock?_eq_some_iff {f : ClockFields} :
    wireClock? cs = some (f, rest) ↔
      ∃ h r, takeNumber 2 0 cs = some (h, ':' :: r) ∧ wireMinutes? h r = some (f, rest) := by
  simp only [wireClock?, Option.bind_eq_bind, Option.bind_eq_some_iff, Prod.exists]
  grind

end Clock

section Stopping

variable {α : Type}

/-- The reading is over before the first mark of an offset: it reads the same if the text ends
there, and it leaves the same offset. -/
def StopsAtZone (read : List Char → Option (α × List Char)) : Prop :=
  ∀ cs a rest, read cs = some (a, rest) →
    read (beforeZone cs) = some (a, beforeZone rest) ∧ fromZone rest = fromZone cs

theorem stopsAtZone_done (a : α) : StopsAtZone fun cs => some (a, cs) := by
  rintro cs a rest ⟨⟩
  exact ⟨rfl, rfl⟩

theorem stopsAtZone_takeNumber (w acc : Nat) : StopsAtZone (takeNumber w acc) := by
  -- on the digits still to be read
  induction w generalizing acc with
  | zero => exact stopsAtZone_done acc
  | succ w ih =>
      intro cs n rest h
      obtain ⟨c, tail, d, rfl, hd, htail⟩ := exists_of_takeNumber h
      have hc := isZoneMark_of_digit hd
      obtain ⟨hread, hzone⟩ := ih _ tail n rest htail
      rw [beforeZone_cons tail hc, fromZone_cons tail hc]
      refine ⟨?_, hzone⟩
      simp only [takeNumber, hd]
      exact hread

theorem takeDigits_beforeZone (cs : List Char) :
    takeDigits (beforeZone cs) = ((takeDigits cs).1, beforeZone (takeDigits cs).2) ∧
      fromZone (takeDigits cs).2 = fromZone cs := by
  induction cs with
  | nil => exact ⟨rfl, rfl⟩
  | cons c cs ih =>
      cases hd : digitValue? c with
      | some d =>
          have hc := isZoneMark_of_digit hd
          rw [beforeZone_cons cs hc, fromZone_cons cs hc]
          simp only [takeDigits, hd, ih.1]
          exact ⟨trivial, ih.2⟩
      | none =>
          simp only [takeDigits, hd]
          refine ⟨?_, trivial⟩
          cases hc : isZoneMark c with
          | false => simp only [beforeZone_cons cs hc, takeDigits, hd]
          | true => simp only [beforeZone_of_mark cs hc, takeDigits]

theorem stopsAtZone_fraction? : StopsAtZone fraction? := by
  intro cs u rest h
  rcases fraction?_eq_some_iff.mp h with
    ⟨c, digits, tail, rfl, hpoint, hdigits, hne, rfl⟩ | ⟨hhead, rfl, rfl⟩
  · have hc : isZoneMark c = false := by
      rcases hpoint with rfl | rfl <;> decide
    obtain ⟨hread, hzone⟩ := takeDigits_beforeZone tail
    rw [hdigits] at hread hzone
    rw [beforeZone_cons tail hc, fromZone_cons tail hc]
    exact ⟨fraction?_eq_some_iff.mpr (Or.inl ⟨c, digits, _, rfl, hpoint, hread, hne, rfl⟩), hzone⟩
  · refine ⟨fraction?_eq_some_iff.mpr (Or.inr ⟨fun c hc => ?_, rfl, rfl⟩), rfl⟩
    exact hhead c (head?_beforeZone _ hc)

theorem stopsAtZone_wireSeconds? (h m : Nat) : StopsAtZone (wireSeconds? h m) := by
  intro cs f rest hread
  obtain ⟨s, r, u, hs, hu, hf⟩ := wireSeconds?_eq_some_iff.mp hread
  obtain ⟨hs, hszone⟩ := stopsAtZone_takeNumber 2 0 cs s r hs
  obtain ⟨hu, huzone⟩ := stopsAtZone_fraction? r u rest hu
  exact ⟨wireSeconds?_eq_some_iff.mpr ⟨s, _, u, hs, hu, hf⟩, huzone.trans hszone⟩

theorem beforeZone_colon (cs : List Char) : beforeZone (':' :: cs) = ':' :: beforeZone cs :=
  beforeZone_cons cs (by decide)

theorem fromZone_colon (cs : List Char) : fromZone (':' :: cs) = fromZone cs :=
  fromZone_cons cs (by decide)

theorem stopsAtZone_wireMinutes? (h : Nat) : StopsAtZone (wireMinutes? h) := by
  intro cs f rest hread
  obtain ⟨m, r, hm, hnext⟩ := wireMinutes?_eq_some_iff.mp hread
  obtain ⟨hm, hmzone⟩ := stopsAtZone_takeNumber 2 0 cs m r hm
  rcases hnext with ⟨r', rfl, hseconds⟩ | ⟨hcolon, hf, rfl⟩
  · obtain ⟨hseconds, hzone⟩ := stopsAtZone_wireSeconds? h m r' f rest hseconds
    rw [beforeZone_colon] at hm
    rw [fromZone_colon] at hmzone
    exact ⟨wireMinutes?_eq_some_iff.mpr ⟨m, _, hm, Or.inl ⟨_, rfl, hseconds⟩⟩,
      hzone.trans hmzone⟩
  · refine ⟨wireMinutes?_eq_some_iff.mpr ⟨m, _, hm, Or.inr ⟨fun hc => ?_, hf, rfl⟩⟩, hmzone⟩
    exact hcolon (head?_beforeZone _ hc)

theorem stopsAtZone_wireClock? : StopsAtZone wireClock? := by
  intro cs f rest hread
  obtain ⟨h, r, hh, hminutes⟩ := wireClock?_eq_some_iff.mp hread
  obtain ⟨hh, hhzone⟩ := stopsAtZone_takeNumber 2 0 cs h (':' :: r) hh
  obtain ⟨hminutes, hzone⟩ := stopsAtZone_wireMinutes? h r f rest hminutes
  rw [beforeZone_colon] at hh
  rw [fromZone_colon] at hhzone
  exact ⟨wireClock?_eq_some_iff.mpr ⟨h, _, hh, hminutes⟩, hzone.trans hhzone⟩

end Stopping

section Agreement

variable {cs rest : List Char}

/-- A clock reading does not go on with the text. -/
def EndsClock (cs : List Char) : Prop :=
  ∀ c ∈ cs.head?, c ≠ '.' ∧ c ≠ ',' ∧ c ≠ ':'

theorem continuation?_of_endsClock (hend : EndsClock cs) {next : Continuation}
    (h : continuation? true cs = some next) : next = .stop (endsText cs) := by
  unfold continuation? at h
  cases cs with
  | nil =>
      cases h
      rfl
  | cons c cs =>
      obtain ⟨hpoint, hcomma, hcolon⟩ := hend c rfl
      cases cs with
      | nil => grind
      | cons c' cs => simp [hpoint, hcomma, hcolon] at h

theorem continuation?_point {c : Char} (hc : c = '.' ∨ c = ',') (hne : cs ≠ [])
    (colons : Bool) : continuation? colons (c :: cs) = some (.fraction cs) := by
  simp [continuation?, hc, hne]

theorem eq_of_lastFraction? {digits : List Nat} (hdigits : takeDigits cs = (digits, rest))
    {h m s : Nat} {reading : ClockReading} (hread : lastFraction? h m s cs = some reading) :
    reading = ⟨⟨h, m, s, fractionValue 6 digits⟩, endsText rest⟩ := by
  unfold lastFraction? at hread
  rw [hdigits] at hread
  dsimp only at hread
  split at hread
  · cases hread
    rfl
  · cases hread

/-- Two digits go on without a colon. -/
theorem continuation?_digits {n : Nat} (h : takeNumber 2 0 cs = some (n, rest)) :
    (cs.head? == some ':') = false ∧ continuation? false cs = some (.field cs) := by
  obtain ⟨c, tail, d, rfl, hd, htail⟩ := exists_of_takeNumber h
  have hne := ne_nil_of_takeNumber htail
  have hc : c ≠ ':' ∧ c ≠ '.' ∧ c ≠ ',' := by
    refine ⟨?_, ?_, ?_⟩ <;> rintro rfl <;> cases hd
  simp [continuation?, hc, hne]

variable {f : ClockFields} {reading : ClockReading}

theorem seconds?_of_wireSeconds? {h m : Nat} (hread : wireSeconds? h m cs = some (f, rest))
    (hend : EndsClock rest) (hrecord : seconds? true h m cs = some reading) :
    reading = ⟨f, endsText rest⟩ := by
  obtain ⟨s, r, u, hs, hu, rfl⟩ := wireSeconds?_eq_some_iff.mp hread
  obtain ⟨p, hp, hrecord⟩ := Option.bind_eq_some_iff.mp hrecord
  rw [hs] at hp
  cases hp
  obtain ⟨next, hnext, hrecord⟩ := Option.bind_eq_some_iff.mp hrecord
  rcases fraction?_eq_some_iff.mp hu with
    ⟨c, digits, tail, rfl, hpoint, hdigits, hne, rfl⟩ | ⟨-, rfl, rfl⟩
  · have htail : tail ≠ [] := by
      rintro rfl
      cases hdigits
      exact hne rfl
    rw [continuation?_point hpoint htail] at hnext
    cases hnext
    exact eq_of_lastFraction? hdigits hrecord
  · cases continuation?_of_endsClock hend hnext
    cases hrecord
    rfl

theorem minutes?_of_wireMinutes? {h : Nat} (hread : wireMinutes? h cs = some (f, rest))
    (hend : EndsClock rest) (hrecord : minutes? true h cs = some reading) :
    reading = ⟨f, endsText rest⟩ := by
  obtain ⟨m, r, hm, hcases⟩ := wireMinutes?_eq_some_iff.mp hread
  obtain ⟨p, hp, hrecord⟩ := Option.bind_eq_some_iff.mp hrecord
  rw [hm] at hp
  cases hp
  obtain ⟨next, hnext, hrecord⟩ := Option.bind_eq_some_iff.mp hrecord
  rcases hcases with ⟨r', rfl, hseconds⟩ | ⟨-, rfl, rfl⟩
  · obtain ⟨s, _, _, hs, -, -⟩ := wireSeconds?_eq_some_iff.mp hseconds
    rw [continuation?_colon r' (ne_nil_of_takeNumber hs)] at hnext
    cases hnext
    exact seconds?_of_wireSeconds? hseconds hend hrecord
  · cases continuation?_of_endsClock hend hnext
    cases hrecord
    rfl

/-- A clock reading that a message takes has the same fields in a record, where it is complete
if nothing is left over. -/
theorem clock?_of_wireClock? (hread : wireClock? cs = some (f, rest)) (hend : EndsClock rest)
    (hrecord : clock? cs = some reading) : reading = ⟨f, endsText rest⟩ := by
  obtain ⟨h, r, hh, hminutes⟩ := wireClock?_eq_some_iff.mp hread
  obtain ⟨p, hp, hrecord⟩ := Option.bind_eq_some_iff.mp hrecord
  rw [hh] at hp
  cases hp
  obtain ⟨next, hnext, hrecord⟩ := Option.bind_eq_some_iff.mp hrecord
  obtain ⟨m, _, hm, -⟩ := wireMinutes?_eq_some_iff.mp hminutes
  have hcolon : continuation? true (':' :: r) = some (.field r) :=
    continuation?_colon r (ne_nil_of_takeNumber hm)
  cases hcolon.symm.trans hnext
  exact minutes?_of_wireMinutes? hminutes hend hrecord

theorem IsHourMinute.clock?_eq {h m : Nat} (hread : IsHourMinute cs h m) :
    clock? cs = some ⟨⟨h, m, 0, 0⟩, true⟩ := by
  have hend (colons : Bool) : continuation? colons [] = some (.stop true) := rfl
  obtain ⟨r, hh, hm | ⟨r', rfl, hm⟩⟩ := hread
  · obtain ⟨hcolon, hfield⟩ := continuation?_digits hm
    simp [clock?, minutes?, hh, hcolon, hfield, hm, hend]
  · have hfield := continuation?_colon r' (ne_nil_of_takeNumber hm)
    simp [clock?, minutes?, hh, hfield, hm, hend]

/-- A sign that records know begins the same offset for them. -/
theorem IsHourMinute.zone?_eq {c : Char} {negative : Bool} {h m : Nat}
    (hread : IsHourMinute cs h m) (hsign : wireSign? c = some negative)
    (hmark : isZoneMark c = true) (complete : Bool) :
    zone? complete (c :: cs) = (offsetOf? negative ⟨h, m, 0, 0⟩).map some := by
  simp only [isZoneMark, Bool.or_eq_true, beq_iff_eq] at hmark
  rcases hmark with (rfl | rfl) | rfl
  · cases hsign
    rw [zone?_plus, hread.clock?_eq, Option.bind_some, if_pos rfl]
  · cases hsign
    rw [zone?_minus, hread.clock?_eq, Option.bind_some, if_pos rfl]
  · cases hsign

theorem IsHourMinute.fromZone_eq {h m : Nat} (hread : IsHourMinute cs h m) :
    fromZone cs = [] := by
  obtain ⟨r, hh, hrest⟩ := hread
  have hhour := (stopsAtZone_takeNumber 2 0 cs h r hh).2
  rcases hrest with hm | ⟨r', rfl, hm⟩
  · exact hhour.symm.trans (stopsAtZone_takeNumber 2 0 r m [] hm).2.symm
  · rw [fromZone_colon] at hhour
    exact hhour.symm.trans (stopsAtZone_takeNumber 2 0 r' m [] hm).2.symm

theorem EndsClock.beforeZone (h : EndsClock cs) : EndsClock (beforeZone cs) :=
  fun c hc => h c (head?_beforeZone cs hc)

/-- A mark that records do not know is left over behind the clock reading, and ends nothing. -/
theorem zone?_of_unknown {c : Char} (hc : isZoneMark c = false) (hcode : c.toNat ≠ 0)
    (hzone : fromZone cs = []) :
    zone? (endsText (beforeZone (c :: cs))) (fromZone (c :: cs)) = none := by
  have hopen : endsText (beforeZone (c :: cs)) = false := by
    rw [beforeZone_cons cs hc]
    exact beq_false_of_ne hcode
  rw [hopen, fromZone_cons cs hc, hzone]
  rfl

/-- An offset that a message takes is the one that a record finds, if it takes the text. -/
theorem zone?_of_wireZone? {zone offset : Option Offset} (hread : wireZone? cs = some zone)
    (hrecord : zone? (endsText (beforeZone cs)) (fromZone cs) = some offset) :
    offset = zone := by
  rcases wireZone?_cases hread with ⟨rfl, rfl⟩ | ⟨rfl | rfl, rfl⟩ |
    ⟨c, tail, negative, h, m, rfl, hsign, hminutes, hoffset⟩
  · cases hrecord
    rfl
  · cases hrecord
    rfl
  · cases hrecord
  · cases hmark : isZoneMark c with
    | true =>
        rw [fromZone_of_mark tail hmark, hminutes.zone?_eq hsign hmark, hoffset] at hrecord
        obtain ⟨o, ho, hrecord⟩ := Option.map_eq_some_iff.mp hrecord
        exact hrecord.symm.trans ho.symm
    | false =>
        -- the sign is the mathematical one
        have hcode : c.toNat ≠ 0 := by
          intro hzero
          cases Char.toNat_inj.mp (hzero.trans (show 0 = '\x00'.toNat from rfl))
          cases hsign
        rw [zone?_of_unknown hmark hcode hminutes.fromZone_eq] at hrecord
        cases hrecord

/-- What follows a date is the same clock reading and offset in both ways. -/
theorem afterDate?_of_afterWireDate? {d : Date} {clock : TimeOfDay} {zone : Option Offset}
    {t : Timestamp} (hread : afterWireDate? cs = some (clock, zone))
    (hrecord : afterDate? d cs = some t) : t = ⟨d, clock, zone⟩ := by
  unfold afterWireDate? at hread
  split at hread
  · cases hread
    cases hrecord
    rfl
  · rename_i separator cs
    split at hread
    · obtain ⟨⟨f, rest⟩, hf, hread⟩ := Option.bind_eq_some_iff.mp hread
      obtain ⟨clock', hclock, hread⟩ := Option.bind_eq_some_iff.mp hread
      obtain ⟨zone', hzone, hread⟩ := Option.bind_eq_some_iff.mp hread
      cases hread
      obtain ⟨reading, hreading, hrecord⟩ := Option.bind_eq_some_iff.mp hrecord
      obtain ⟨time, htime, hrecord⟩ := Option.bind_eq_some_iff.mp hrecord
      obtain ⟨offset, hoffset, hrecord⟩ := Option.bind_eq_some_iff.mp hrecord
      cases hrecord
      obtain ⟨hbefore, hfrom⟩ := stopsAtZone_wireClock? cs f rest hf
      have hend : EndsClock rest := (head?_of_wireZone? hzone).2
      cases clock?_of_wireClock? hbefore hend.beforeZone hreading
      cases hclock.symm.trans htime
      change zone? (endsText (Time.beforeZone rest)) (fromZone cs) = some offset at hoffset
      rw [← hfrom] at hoffset
      rw [zone?_of_wireZone? hzone hoffset]
    · cases hread

end Agreement

end Time
end LinkRegistry
