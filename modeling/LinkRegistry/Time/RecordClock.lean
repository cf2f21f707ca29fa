import LinkRegistry.Time.Text

/-!
# Clock readings of records

**Input.** Characters, up to the offset or to the end of the text.

**Rule.** Hours, minutes and seconds have two digits each, and the later ones may be left
out.  Colons stand between all of them if one follows the hours, and otherwise nothing
does.  A point or a comma begins a fraction of a second, behind whichever field it
stands; behind the seconds any colon does so too, or nothing at all if there are no
colons.  As many characters of a fraction as count, which are six, have to be digits, if
there are so many.

A reading may leave characters over: one ASCII character that stands last behind a
field, and whatever follows the digits of a fraction.  It is complete if it leaves
nothing over, or something that begins with the character of code 0, which ends a text.

**Results.** A printed clock reading reads back and is complete (`clock?_text`).
-/

namespace LinkRegistry
namespace Time

open Text

/-- A clock reading, and whether it is complete. -/
structure ClockReading where
  fields : ClockFields
  complete : Bool
  deriving DecidableEq

/-- The text ends here. -/
def endsText : List Char → Bool
  | [] => true
  | c :: _ => c.toNat == 0

/-- How a clock reading goes on behind a field. -/
inductive Continuation where
  | stop (complete : Bool)
  | fraction (rest : List Char)
  | field (rest : List Char)
  deriving DecidableEq

/-- Read on behind a field. -/
def continuation? (colons : Bool) : List Char → Option Continuation
  | [] => some (.stop true)
  | c :: cs =>
      if cs.isEmpty then
        if c.toNat < 128 then some (.stop (endsText [c])) else none
      else if c == '.' || c == ',' then some (.fraction cs)
      else if colons then if c == ':' then some (.field cs) else none
      else some (.field (c :: cs))

/-- Read the fraction of a second that ends a reading. -/
def lastFraction? (h m s : Nat) (cs : List Char) : Option ClockReading :=
  let (ds, r) := takeDigits cs
  if min 6 cs.length ≤ ds.length then
    some ⟨⟨h, m, s, fractionValue 6 ds⟩, endsText r⟩
  else none

/-- Read seconds. -/
def seconds? (colons : Bool) (h m : Nat) (cs : List Char) : Option ClockReading := do
  let (s, r) ← takeNumber 2 0 cs
  match ← continuation? colons r with
  | .stop complete => return ⟨⟨h, m, s, 0⟩, complete⟩
  | .fraction r => lastFraction? h m s r
  | .field r => lastFraction? h m s r

/-- Read minutes, and seconds if they follow. -/
def minutes? (colons : Bool) (h : Nat) (cs : List Char) : Option ClockReading := do
  let (m, r) ← takeNumber 2 0 cs
  match ← continuation? colons r with
  | .stop complete => return ⟨⟨h, m, 0, 0⟩, complete⟩
  | .fraction r => lastFraction? h m 0 r
  | .field r => seconds? colons h m r

/-- Read a clock reading. -/
def clock? (cs : List Char) : Option ClockReading := do
  let (h, r) ← takeNumber 2 0 cs
  let colons := r.head? == some ':'
  match ← continuation? colons r with
  | .stop complete => return ⟨⟨h, 0, 0, 0⟩, complete⟩
  | .fraction r => lastFraction? h 0 0 r
  | .field r => minutes? colons h r

theorem continuation?_colon (cs : List Char) (h : cs ≠ []) :
    continuation? true (':' :: cs) = some (.field cs) := by
  simp [continuation?, h]

theorem lastFraction?_padded (h m s u : Nat) (hu : u < 1000000) :
    lastFraction? h m s (padded 6 u) = some ⟨⟨h, m, s, u⟩, true⟩ := by
  have digits := takeDigits_padded 6 u [] rfl
  have value := fractionValue_padded 6 0 u
  rw [List.append_nil] at digits
  rw [lastFraction?, digits]
  simp [value, tenPower, endsText, Nat.mod_eq_of_lt hu]

theorem padded_append_ne_nil (w n : Nat) (cs : List Char) :
    padded (w + 1) n ++ cs ≠ [] := by
  simp [padded]

theorem seconds?_text (h m s u : Nat) (hs : s < 100) (hu : u < 1000000) :
    seconds? true h m (padded 2 s ++ fractionText u) = some ⟨⟨h, m, s, u⟩, true⟩ := by
  by_cases hz : u = 0
  · have field : takeNumber 2 0 (padded 2 s) = some (s, []) := by
      simpa [tenPower, Nat.mod_eq_of_lt hs] using takeNumber_padded 2 s 0 []
    simp [seconds?, field, fractionText, hz, continuation?]
  · have point : continuation? true ('.' :: padded 6 u) = some (.fraction (padded 6 u)) := by
      simp [continuation?, padded]
    simp [seconds?, takeNumber_padded, tenPower, fractionText, hz, point,
      lastFraction?_padded h m s u hu, Nat.mod_eq_of_lt hs]

/-- A printed clock reading reads back and is complete. -/
theorem clock?_text (t : TimeOfDay) :
    clock? t.text = some ⟨⟨t.hour, t.minute, t.second, t.micro⟩, true⟩ := by
  obtain ⟨hh, hm, hs, hu⟩ := t.inRange
  have minutes (r : List Char) :
      continuation? true (':' :: (padded 2 t.minute ++ r)) =
        some (.field (padded 2 t.minute ++ r)) :=
    continuation?_colon _ (padded_append_ne_nil 1 t.minute r)
  have seconds (r : List Char) :
      continuation? true (':' :: (padded 2 t.second ++ r)) =
        some (.field (padded 2 t.second ++ r)) :=
    continuation?_colon _ (padded_append_ne_nil 1 t.second r)
  simp [TimeOfDay.text, clock?, minutes?, takeNumber_padded, tenPower, minutes, seconds,
    seconds?_text t.hour t.minute t.second t.micro (by omega) hu,
    Nat.mod_eq_of_lt (show t.hour < 100 by omega),
    Nat.mod_eq_of_lt (show t.minute < 100 by omega)]

end Time
end LinkRegistry
