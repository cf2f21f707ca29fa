import LinkRegistry.Json
import LinkRegistry.Wire.Problem

/-!
# Readings

**Input.** JSON values that are to be read as values of a type.

**Rule.** A reading gives a value, or all problems in the order of the parts.  Fields of an
object are read by name: a required one has to be there, an optional one has a value for
its absence, and unknown ones do not matter.

**Results.** Two readings combined give a value exactly if both do
(`arg_eq_ok_iff`).
-/

namespace LinkRegistry
namespace Wire

/-- A value, or what stands in its way. -/
abbrev Reading (α : Type) := Except (List Problem) α

namespace Reading

variable {α β : Type}

/-- A reading with one problem. -/
def fail (c : Cause) : Reading α :=
  .error [⟨c, []⟩]

/-- A function that was read, before its arguments are. -/
def of (g : α) : Reading α :=
  .ok g

/-- Give an argument that was read to a function that was read before. -/
def arg (a : Reading α) (f : Reading (α → β)) : Reading β :=
  match f, a with
  | .ok g, .ok x => .ok (g x)
  | .ok _, .error q => .error q
  | .error p, .ok _ => .error p
  | .error p, .error q => .error (p ++ q)

/-- The reading of a part, as a reading of the whole. -/
def inside (s : Step) (a : Reading α) : Reading α :=
  match a with
  | .ok x => .ok x
  | .error ps => .error (ps.map (Problem.inside s))

theorem arg_eq_ok_iff {f : Reading (α → β)} {a : Reading α} {b : β} :
    arg a f = .ok b ↔ ∃ g x, f = .ok g ∧ a = .ok x ∧ g x = b := by
  cases f <;> cases a <;> simp [arg]

theorem inside_eq_ok_iff {s : Step} {a : Reading α} {x : α} :
    inside s a = .ok x ↔ a = .ok x := by
  cases a <;> simp [inside]

theorem exists_of_map_eq_ok {r : Reading α} {f : α → β} {b : β} (h : r.map f = .ok b) :
    ∃ a, r = .ok a ∧ f a = b := by
  cases r with
  | error ps => cases h
  | ok a =>
      cases h
      exact ⟨a, rfl, rfl⟩

end Reading

section Parts

variable {α : Type}

/-- Read a value that has to be an object. -/
def object (read : Json → Reading α) : Json → Reading α
  | .object fields => read (.object fields)
  | _ => Reading.fail .notObject

/-- Read a field that has to be there. -/
def required (name : String) (read : Json → Reading α) (j : Json) : Reading α :=
  match j.field? name with
  | some v => Reading.inside (.field name) (read v)
  | none => Reading.inside (.field name) (Reading.fail .missing)

/-- Read a field that need not be there. -/
def optional (name : String) (absent : α) (read : Json → Reading α) (j : Json) :
    Reading α :=
  match j.field? name with
  | some v => Reading.inside (.field name) (read v)
  | none => .ok absent

/-- Read a value that may be null. -/
def nullable (read : Json → Reading α) : Json → Reading (Option α)
  | .null => .ok none
  | j => (read j).map some

/-- Read items, the first of which has the given index. -/
def itemsFrom (read : Json → Reading α) : Nat → List Json → Reading (List α)
  | _, [] => .ok []
  | k, j :: js =>
      Reading.of List.cons
        |> Reading.arg (Reading.inside (.item k) (read j))
        |> Reading.arg (itemsFrom read (k + 1) js)

/-- Read an array. -/
def array (read : Json → Reading α) : Json → Reading (List α)
  | .array items => itemsFrom read 0 items
  | _ => Reading.fail .notArray

/-- Read an array that has items. -/
def nonemptyArray (read : Json → Reading α) (j : Json) : Reading (List α) :=
  match array read j with
  | .ok [] => Reading.fail .emptyArray
  | r => r

end Parts
end Wire
end LinkRegistry
