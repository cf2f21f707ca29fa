import LinkRegistry.Json
import LinkRegistry.Wire.Problem

/-!
# Quotations

**Input.** A JSON value and a problem that it has.

**Rule.** A problem quotes the value at its path; if a field is missing, it quotes the
object that lacks it.  Fields whose names begin with `_sa` are internal, and left out of
quotations.  JSON text has no numerals for infinite and undefined numbers, so a quotation
can be written only if all numbers in it are finite.

**Results.** Every quotation from a value whose numbers are finite can be written
(`isWritable_of_isFinite`).
-/

namespace LinkRegistry

namespace Json

mutual

/-- All numbers in the value are finite. -/
def isFinite : Json → Bool
  | nonFinite => false
  | array items => itemsFinite items
  | object fields => fieldsFinite fields
  | _ => true

/-- All numbers in the items are finite. -/
def itemsFinite : List Json → Bool
  | [] => true
  | j :: js => j.isFinite && itemsFinite js

/-- All numbers in the fields are finite. -/
def fieldsFinite : List (String × Json) → Bool
  | [] => true
  | (_, j) :: fs => j.isFinite && fieldsFinite fs

end

/-- How names of internal fields begin. -/
def internalStart : String := "_sa"

/-- The name is that of an internal field. -/
def isInternal (name : String) : Bool :=
  internalStart.toList.isPrefixOf name.toList

mutual

/-- The value without internal fields, at any depth. -/
def visible : Json → Json
  | array items => array (visibleItems items)
  | object fields => object (visibleFields fields)
  | j => j

/-- The items without internal fields. -/
def visibleItems : List Json → List Json
  | [] => []
  | j :: js => j.visible :: visibleItems js

/-- The fields that are not internal, without internal fields. -/
def visibleFields : List (String × Json) → List (String × Json)
  | [] => []
  | (name, j) :: fs =>
      if isInternal name then visibleFields fs
      else (name, j.visible) :: visibleFields fs

end

mutual

theorem isFinite_visible : (j : Json) → j.isFinite = true → j.visible.isFinite = true
  | array items, h => by
      rw [isFinite] at h
      rw [visible, isFinite]
      exact itemsFinite_visible items h
  | object fields, h => by
      rw [isFinite] at h
      rw [visible, isFinite]
      exact fieldsFinite_visible fields h
  | null, _ | bool _, _ | int _, _ | real _, _ | text _, _ => rfl
  | nonFinite, h => h

theorem itemsFinite_visible : (items : List Json) → itemsFinite items = true →
    itemsFinite (visibleItems items) = true
  | [], _ => rfl
  | j :: js, h => by
      rw [itemsFinite, Bool.and_eq_true] at h
      rw [visibleItems, itemsFinite, Bool.and_eq_true]
      exact ⟨isFinite_visible j h.1, itemsFinite_visible js h.2⟩

theorem fieldsFinite_visible : (fields : List (String × Json)) →
    fieldsFinite fields = true → fieldsFinite (visibleFields fields) = true
  | [], _ => rfl
  | (name, j) :: fs, h => by
      rw [fieldsFinite, Bool.and_eq_true] at h
      rw [visibleFields]
      split
      · exact fieldsFinite_visible fs h.2
      · rw [fieldsFinite, Bool.and_eq_true]
        exact ⟨isFinite_visible j h.1, fieldsFinite_visible fs h.2⟩

end

theorem isFinite_of_getElem? {items : List Json} {k : Nat} {j : Json}
    (h : itemsFinite items = true) (at_k : items[k]? = some j) : j.isFinite = true := by
  induction items generalizing k with
  | nil => simp at at_k
  | cons i items ih =>
      rw [itemsFinite, Bool.and_eq_true] at h
      cases k with
      | zero =>
          cases at_k
          exact h.1
      | succ k => exact ih h.2 at_k

theorem isFinite_of_lookup {fields : List (String × Json)} {name : String} {j : Json}
    (h : fieldsFinite fields = true) (found : fields.lookup name = some j) :
    j.isFinite = true := by
  induction fields with
  | nil => cases found
  | cons f fields ih =>
      rw [fieldsFinite, Bool.and_eq_true] at h
      rw [List.lookup_cons] at found
      split at found
      · cases found
        exact h.1
      · exact ih h.2 found

end Json

namespace Wire

namespace Step

/-- The part that the step leads to. -/
def part? : Step → Json → Option Json
  | field name, j => j.field? name
  | item index, .array items => items[index]?
  | item _, _ => none

theorem isFinite_part {s : Step} {j k : Json} (h : j.isFinite = true)
    (part : s.part? j = some k) : k.isFinite = true := by
  cases s <;> cases j <;> simp [part?, Json.field?] at part
  · rw [Json.isFinite] at h
    exact Json.isFinite_of_lookup h part
  · rw [Json.isFinite] at h
    exact Json.isFinite_of_getElem? h part

end Step

/-- The value at the end of a path. -/
def valueAt? : List Step → Json → Option Json
  | [], j => some j
  | s :: path, j => (s.part? j).bind (valueAt? path)

theorem isFinite_valueAt {path : List Step} {j k : Json} (h : j.isFinite = true)
    (value : valueAt? path j = some k) : k.isFinite = true := by
  induction path generalizing j with
  | nil =>
      cases value
      exact h
  | cons s path ih =>
      obtain ⟨part, found, rest⟩ := Option.bind_eq_some_iff.mp value
      exact ih (s.isFinite_part h found) rest

namespace Problem

/-- The part of the value that the problem is about. -/
def subject? (p : Problem) (j : Json) : Option Json :=
  match p.cause with
  | .missing => valueAt? p.path.dropLast j
  | _ => valueAt? p.path j

/-- What the problem quotes. -/
def quoted? (p : Problem) (j : Json) : Option Json :=
  (p.subject? j).map Json.visible

/-- What the problem quotes can be written. -/
def isWritable (p : Problem) (j : Json) : Bool :=
  (p.quoted? j).all Json.isFinite

theorem isFinite_subject {p : Problem} {j k : Json} (h : j.isFinite = true)
    (subject : p.subject? j = some k) : k.isFinite = true := by
  unfold subject? at subject
  split at subject <;> exact isFinite_valueAt h subject

theorem isWritable_of_isFinite (p : Problem) {j : Json} (h : j.isFinite = true) :
    p.isWritable j = true := by
  unfold isWritable quoted?
  rw [Option.all_eq_true]
  intro quoted found
  obtain ⟨subject, about, rfl⟩ := Option.map_eq_some_iff.mp found
  exact subject.isFinite_visible (isFinite_subject h about)

end Problem
end Wire
end LinkRegistry
