import LinkRegistry.Time.Text
import LinkRegistry.Time.UnixTime

/-!
# Wire form of a timestamp

**Input.** A text, or a timestamp.

**Rule.** On the wire a timestamp is the date `YYYY-MM-DD`, alone or followed by one of
`T`, `t`, `_` and the blank, hours and minutes with a colon, and possibly seconds with a
fraction.  An offset may follow: `Z`, `z`, or a sign, hours and minutes with or without a
colon, the minutes below 60 and the whole below a day.  The minus sign may also be the
mathematical one.  Any other text is read as a number.

The year 0 can be written, in either way, but it lies outside of the calendar.

Printing always writes `T` and all three clock fields, and six fraction digits unless
the fraction is zero.  An offset is rounded to seconds and printed as `Z` if it is zero
then, else in hours and minutes.

**Results.** A printed clock reading reads back (`wireClock?_text`).
-/

namespace LinkRegistry
namespace Time

open Text

/-- Why a text denotes no timestamp. -/
inductive WireFault where
  | unreadable
  /-- The text denotes a time in the year before year 1. -/
  | yearZero
  deriving DecidableEq

/-- The sign of an offset, if the character is one: whether it is a minus. -/
def wireSign? (c : Char) : Option Bool :=
  if c == '+' then some false
  else if c == '-' || c.toNat == 0x2212 then some true
  else none

/-- Read the end of the text, or an offset and the end. -/
def wireZone? : List Char → Option (Option Offset)
  | [] => some none
  | ['Z'] => some (some Offset.utc)
  | ['z'] => some (some Offset.utc)
  | c :: cs => do
      let negative ← wireSign? c
      let (h, r) ← takeNumber 2 0 cs
      let r := match r with
        | ':' :: r => r
        | r => r
      let (m, r) ← takeNumber 2 0 r
      let n : Nat := (h * 60 + m) * 60 * microsPerSecond
      if m < 60 ∧ r = [] then
        (Offset.ofMicros? (if negative then -n else n)).map some
      else none

/-- Read seconds after hours and minutes. -/
def wireSeconds? (h m : Nat) (cs : List Char) : Option (ClockFields × List Char) := do
  let (s, r) ← takeNumber 2 0 cs
  let (u, r) ← fraction? r
  return (⟨h, m, s, u⟩, r)

/-- Read minutes after hours, and seconds if a colon follows. -/
def wireMinutes? (h : Nat) (cs : List Char) : Option (ClockFields × List Char) := do
  let (m, r) ← takeNumber 2 0 cs
  match r with
  | ':' :: r => wireSeconds? h m r
  | r => return (⟨h, m, 0, 0⟩, r)

/-- Read hours and minutes, and seconds if a colon follows. -/
def wireClock? (cs : List Char) : Option (ClockFields × List Char) := do
  let (h, r) ← takeNumber 2 0 cs
  match r with
  | ':' :: r => wireMinutes? h r
  | _ => none

/-- The character may stand between date and clock reading. -/
def isWireSeparator (c : Char) : Bool :=
  c == 'T' || c == 't' || c == '_' || c == ' '

/-- Read what follows the date. -/
def afterWireDate? : List Char → Option (TimeOfDay × Option Offset)
  | [] => some (TimeOfDay.midnight, none)
  | c :: cs =>
      if isWireSeparator c then do
        let (f, r) ← wireClock? cs
        let t ← f.toTimeOfDay?
        let o ← wireZone? r
        return (t, o)
      else none

/-- Read year, month and day. -/
def wireDate? (cs : List Char) : Option (Nat × Nat × Nat × List Char) := do
  let (y, r) ← takeNumber 4 0 cs
  match r with
  | '-' :: r =>
      let (m, r) ← takeNumber 2 0 r
      match r with
      | '-' :: r =>
          let (d, r) ← takeNumber 2 0 r
          return (y, m, d, r)
      | _ => none
  | _ => none

/-- Read a date, and a clock reading if more follows. -/
def wireDateTime (cs : List Char) : Except WireFault Timestamp :=
  let parts := do
    let (y, m, d, r) ← wireDate? cs
    let (t, o) ← afterWireDate? r
    return (y, m, d, t, o)
  match parts with
  | none => .error .unreadable
  | some (y, m, d, t, o) =>
      match Date.ofFields? y m d with
      | some date => .ok ⟨date, t, o⟩
      | none =>
          if y = 0 ∧ 1 ≤ d ∧ d ≤ monthLength y m then .error .yearZero
          else .error .unreadable

/-- The instant that many microseconds after the start of 1970. -/
def wireInstant (n : Int) : Except WireFault Timestamp :=
  match Timestamp.ofUnixMicros? n with
  | some t => .ok t
  | none =>
      let day := Timestamp.epochDay + n / microsPerDay
      if -366 < day ∧ day < 1 then .error .yearZero else .error .unreadable

namespace Timestamp

/-- Read the wire form of a text. -/
def ofWireText (s : String) : Except WireFault Timestamp :=
  match wireDateTime s.toList with
  | .error .unreadable =>
      match (Decimal.ofText? s.toList).bind microsOfNumeral? with
      | some n => wireInstant n
      | none => .error .unreadable
  | r => r

end Timestamp

/-- `Z`, or sign, hours and minutes. -/
def Offset.wireText (o : Offset) : List Char :=
  let s := (o.micros.natAbs + microsPerSecond / 2) / microsPerSecond
  if s = 0 then ['Z']
  else
    (if o.micros < 0 then '-' else '+') ::
      (padded 2 (s / 3600) ++ ':' :: padded 2 (s / 60 % 60))

namespace Timestamp

/-- Print the wire form. -/
def wireText (t : Timestamp) : String :=
  String.ofList (t.date.text ++ 'T' :: (t.time.text ++
    match t.offset with
    | none => []
    | some o => o.wireText))

end Timestamp

theorem wireClock?_text (t : TimeOfDay) (rest : List Char)
    (digits : startsWithDigit rest = false)
    (mark : ∀ c ∈ rest.head?, c ≠ '.' ∧ c ≠ ',') :
    wireClock? (t.text ++ rest) = some (⟨t.hour, t.minute, t.second, t.micro⟩, rest) := by
  obtain ⟨hh, hm, hs, hu⟩ := t.inRange
  simp [TimeOfDay.text, wireClock?, wireMinutes?, wireSeconds?, takeNumber_padded, tenPower,
    List.append_assoc, fraction?_fractionText t.micro rest hu digits mark,
    Nat.mod_eq_of_lt (show t.hour < 100 by omega),
    Nat.mod_eq_of_lt (show t.minute < 100 by omega),
    Nat.mod_eq_of_lt (show t.second < 100 by omega)]

end Time
end LinkRegistry
