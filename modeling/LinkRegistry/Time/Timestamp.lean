import LinkRegistry.Time.Date

/-!
# Timestamps

**Input.** A date, a time of day and, if known, an offset from UTC.

**Rule.** A time of day counts microseconds below the second.  An offset is a number of
microseconds strictly within one day of zero.  A timestamp without an offset is a wall
clock reading; one with an offset is an instant.

**Results.** Two timestamps are `same` if both are wall clock readings with equal
fields, or both are instants and denote the same one (`same_iff`).  `same` is
reflexive and symmetric (`same_refl`, `same_comm`).
-/

namespace LinkRegistry
namespace Time

/-- Microseconds of a second. -/
def microsPerSecond : Nat := 1000000

/-- Microseconds of a day. -/
def microsPerDay : Nat := 86400 * microsPerSecond

/-- A reading of a 24-hour clock. -/
@[ext] structure TimeOfDay where
  hour : Nat
  minute : Nat
  second : Nat
  micro : Nat
  inRange : hour < 24 ∧ minute < 60 ∧ second < 60 ∧ micro < 1000000
  deriving DecidableEq

namespace TimeOfDay

/-- The reading with these fields, if the clock has it. -/
def ofFields? (h m s u : Nat) : Option TimeOfDay :=
  if r : h < 24 ∧ m < 60 ∧ s < 60 ∧ u < 1000000 then some ⟨h, m, s, u, r⟩ else none

@[simp] theorem ofFields?_fields (t : TimeOfDay) :
    ofFields? t.hour t.minute t.second t.micro = some t := by
  simp [ofFields?, t.inRange]

/-- The first reading of the day. -/
def midnight : TimeOfDay := ⟨0, 0, 0, 0, by decide⟩

/-- Microseconds since midnight. -/
def micros (t : TimeOfDay) : Nat :=
  ((t.hour * 60 + t.minute) * 60 + t.second) * microsPerSecond + t.micro

/-- The reading that many microseconds after midnight. -/
def ofMicros? (n : Nat) : Option TimeOfDay :=
  let s := n / microsPerSecond
  ofFields? (s / 3600) (s / 60 % 60) (s % 60) (n % microsPerSecond)

end TimeOfDay

/-- A distance from UTC, positive to the east. -/
@[ext] structure Offset where
  micros : Int
  inRange : -86400000000 < micros ∧ micros < 86400000000
  deriving DecidableEq

namespace Offset

/-- The offset of that many microseconds, if it is less than a day. -/
def ofMicros? (n : Int) : Option Offset :=
  if r : -86400000000 < n ∧ n < 86400000000 then some ⟨n, r⟩ else none

@[simp] theorem ofMicros?_micros (o : Offset) : ofMicros? o.micros = some o := by
  simp [ofMicros?, o.inRange]

/-- The offset of UTC itself. -/
def utc : Offset := ⟨0, by decide⟩

end Offset

/-- A wall clock reading, or an instant if there is an offset. -/
@[ext] structure Timestamp where
  date : Date
  time : TimeOfDay
  offset : Option Offset
  deriving DecidableEq

namespace Timestamp

/-- Microseconds from the start of day 0 to the wall clock reading. -/
def wallMicros (t : Timestamp) : Int :=
  (t.date.dayNumber * microsPerDay + t.time.micros : Nat)

/-- Both are readings with equal fields, or both are the same instant. -/
def same (a b : Timestamp) : Bool :=
  match a.offset, b.offset with
  | none, none => a.date == b.date && a.time == b.time
  | some p, some q => a.wallMicros - p.micros == b.wallMicros - q.micros
  | _, _ => false

theorem same_iff (a b : Timestamp) :
    same a b = true ↔
      (a.offset = none ∧ a = b) ∨
        ∃ p q, a.offset = some p ∧ b.offset = some q ∧
          a.wallMicros - p.micros = b.wallMicros - q.micros := by
  obtain ⟨da, ta, oa⟩ := a
  obtain ⟨db, tb, ob⟩ := b
  cases oa <;> cases ob <;> simp [same, Timestamp.mk.injEq]

theorem same_refl (a : Timestamp) : same a a = true := by
  rw [same_iff]
  cases h : a.offset with
  | none => exact Or.inl ⟨rfl, rfl⟩
  | some p => exact Or.inr ⟨p, p, rfl, rfl, rfl⟩

theorem same_comm (a b : Timestamp) : same a b = same b a := by
  obtain ⟨da, ta, oa⟩ := a
  obtain ⟨db, tb, ob⟩ := b
  cases oa <;> cases ob <;> simp only [same, Bool.beq_comm]

/-- Day number of the first of January 1970. -/
def epochDay : Int := 719163

/-- The instant that many microseconds after the start of 1970, in UTC. -/
def ofUnixMicros? (n : Int) : Option Timestamp :=
  let day := epochDay + n / microsPerDay
  if day < 1 then none
  else
    match Date.ofDayNumber? day.toNat, TimeOfDay.ofMicros? (n % microsPerDay).toNat with
    | some d, some t => some ⟨d, t, some Offset.utc⟩
    | _, _ => none

end Timestamp
end Time
end LinkRegistry
