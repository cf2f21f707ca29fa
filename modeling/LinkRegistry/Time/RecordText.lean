import LinkRegistry.Time.RecordClock

/-!
# Record form of a timestamp

**Input.** A text, or a timestamp.

**Rule.** Records hold timestamps in a wide family of ISO 8601 forms.  The date is
`YYYY-MM-DD`, `YYYYMMDD`, `YYYY-Www-D` or `YYYYWwwD`, where a week form may leave out the
day, which is then Monday.  Any one character may separate the date from a clock
reading.  The first `Z` or sign behind the separator begins an offset: `Z`, or the sign and
a complete clock reading.  The clock reading before it need not be complete, but it has
to be without an offset.  The fields of an offset have no ranges of their own, but the
offset is less than a day; it is zero if its whole seconds are.

Week forms are ambiguous, since the separator may be a hyphen or a digit.  In
`YYYY-Www-` followed by two digits the hyphen separates.  After `YYYYWww` an odd number of
digits, other than one, begins with the separator.

Printing uses the first form, `T`, all three clock fields, six fraction digits unless
the fraction is zero, and as many offset fields as the offset needs beyond minutes.
-/

namespace LinkRegistry
namespace Time

open Text

/-- The offset that a sign and clock fields denote. -/
def offsetOf? (negative : Bool) (f : ClockFields) : Option Offset :=
  let n : Nat := if f.seconds = 0 then 0 else f.seconds * microsPerSecond + f.micro
  Offset.ofMicros? (if negative then -n else n)

/-- The character begins an offset. -/
def isZoneMark (c : Char) : Bool :=
  c == '+' || c == '-' || c == 'Z'

/-- Read an offset, which may be missing if the clock reading before it is complete. -/
def zone? (complete : Bool) : List Char → Option (Option Offset)
  | [] => if complete then some none else none
  | 'Z' :: cs => if endsText cs then some (some Offset.utc) else none
  | sign :: cs => do
      let c ← clock? cs
      if c.complete then (offsetOf? (sign == '-') c.fields).map some else none

/-- Read what follows the date: nothing, or a separator and a clock reading. -/
def afterDate? (d : Date) : List Char → Option Timestamp
  | [] => some ⟨d, TimeOfDay.midnight, none⟩
  | _ :: cs => do
      let c ← clock? (cs.takeWhile fun c => !isZoneMark c)
      let t ← c.fields.toTimeOfDay?
      let o ← zone? c.complete (cs.dropWhile fun c => !isZoneMark c)
      return ⟨d, t, o⟩

/-- Read what follows `YYYY-Www`. -/
def afterExtendedWeek? (y w : Nat) : List Char → Option Timestamp
  | '-' :: c :: r =>
      if startsWithDigit r then
        (Date.ofWeek? y w 1).bind (afterDate? · ('-' :: c :: r))
      else
        (digitValue? c).bind fun d => (Date.ofWeek? y w d).bind (afterDate? · r)
  | r => (Date.ofWeek? y w 1).bind (afterDate? · r)

/-- Read what follows `YYYYWww`. -/
def afterBasicWeek? (y w : Nat) (r : List Char) : Option Timestamp :=
  let count := (takeDigits r).1.length
  match r with
  | c :: cs =>
      if count = 1 ∨ (count % 2 = 0 ∧ 0 < count) then
        (digitValue? c).bind fun d => (Date.ofWeek? y w d).bind (afterDate? · cs)
      else (Date.ofWeek? y w 1).bind (afterDate? · (c :: cs))
  | [] => (Date.ofWeek? y w 1).bind (afterDate? · [])

/-- Read what follows the year. -/
def afterYear? (y : Nat) : List Char → Option Timestamp
  | '-' :: 'W' :: r => do
      let (w, r) ← takeNumber 2 0 r
      afterExtendedWeek? y w r
  | 'W' :: r => do
      let (w, r) ← takeNumber 2 0 r
      afterBasicWeek? y w r
  | '-' :: r => do
      let (m, r) ← takeNumber 2 0 r
      match r with
      | '-' :: r =>
          let (d, r) ← takeNumber 2 0 r
          (Date.ofFields? y m d).bind (afterDate? · r)
      | _ => none
  | r => do
      let (m, r) ← takeNumber 2 0 r
      let (d, r) ← takeNumber 2 0 r
      (Date.ofFields? y m d).bind (afterDate? · r)

namespace Timestamp

/-- Read the record form. -/
def ofText? (s : String) : Option Timestamp := do
  let (y, r) ← takeNumber 4 0 s.toList
  afterYear? y r

end Timestamp

/-- Sign, hours and minutes of an offset, then seconds and fraction if they are not zero. -/
def Offset.text (o : Offset) : List Char :=
  let n := o.micros.natAbs
  let s := n / microsPerSecond
  let u := n % microsPerSecond
  (if o.micros < 0 then '-' else '+') ::
    (padded 2 (s / 3600) ++ ':' :: (padded 2 (s / 60 % 60) ++
      if s % 60 = 0 ∧ u = 0 then [] else ':' :: (padded 2 (s % 60) ++ fractionText u)))

namespace Timestamp

/-- Print the record form. -/
def text (t : Timestamp) : String :=
  String.ofList (t.date.text ++ 'T' :: (t.time.text ++
    match t.offset with
    | none => []
    | some o => o.text))

end Timestamp

end Time
end LinkRegistry
