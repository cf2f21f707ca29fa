import LinkRegistry.Link.Patch

/-!
# Registries

**Input.** Links kept under their ids.

**Rule.** A registry holds entries in ascending order of their keys, which is the order
of code points, and the number of writes so far.  Storing under a key replaces the entry
that has it.

**Results.** Looking up after storing and after removing is given by one equation each
(`lookup_store`, `lookup_remove`).
-/

namespace LinkRegistry

/-- Links under their keys, ascending. -/
abbrev Entries := List (String × Link)

namespace Entries

/-- Store a link under a key. -/
def store (key : String) (l : Link) : Entries → Entries
  | [] => [(key, l)]
  | (k, v) :: rest =>
      if key = k then (key, l) :: rest
      else if key < k then (key, l) :: (k, v) :: rest
      else (k, v) :: store key l rest

/-- Remove the entries with these keys. -/
def remove (keys : List String) (es : Entries) : Entries :=
  es.filter fun e => !decide (e.1 ∈ keys)

theorem lookup_store (key k : String) (l : Link) (es : Entries) :
    (store key l es).lookup k = if k = key then some l else es.lookup k := by
  induction es with
  | nil =>
      by_cases h : k = key
      · simp [store, h]
      · simp [store, List.lookup_cons, h, beq_eq_false_iff_ne.2 h]
  | cons e rest ih =>
      obtain ⟨k', v⟩ := e
      by_cases hk : key = k'
      · subst hk
        by_cases h : k = key
        · simp [store, h]
        · simp [store, List.lookup_cons, h, beq_eq_false_iff_ne.2 h]
      · by_cases hlt : key < k'
        · by_cases h : k = key
          · simp [store, h, hk, hlt]
          · simp [store, List.lookup_cons, h, hk, hlt, beq_eq_false_iff_ne.2 h]
        · by_cases h' : k = k'
          · subst h'
            have : ¬ k = key := fun h => hk h.symm
            simp [store, this, hk, hlt]
          · simp [store, List.lookup_cons, hk, hlt, beq_eq_false_iff_ne.2 h', ih]

theorem lookup_remove (keys : List String) (k : String) (es : Entries) :
    (remove keys es).lookup k = if k ∈ keys then none else es.lookup k := by
  induction es with
  | nil => simp [remove]
  | cons e rest ih =>
      obtain ⟨k', v⟩ := e
      simp only [remove] at ih ⊢
      by_cases hin : k' ∈ keys
      · rw [List.filter_cons_of_neg (by simp [hin]), ih]
        by_cases h : k = k'
        · simp [h, hin]
        · simp [List.lookup_cons, beq_eq_false_iff_ne.2 h]
      · rw [List.filter_cons_of_pos (by simp [hin])]
        by_cases h : k = k'
        · simp [h, hin]
        · simp [List.lookup_cons, beq_eq_false_iff_ne.2 h, ih]

end Entries

/-- Stored links and the number of writes. -/
structure Registry where
  entries : Entries
  index : Nat
  deriving DecidableEq

namespace Registry

/-- A new registry. -/
def empty : Registry := ⟨[], 0⟩

/-- The link stored under a key. -/
def find? (r : Registry) (key : String) : Option Link :=
  r.entries.lookup key

/-- Keys of the stored links, ascending. -/
def ids (r : Registry) : List String :=
  r.entries.map Prod.fst

/-- The registry after a write. -/
def write (r : Registry) (es : Entries) : Registry :=
  ⟨es, r.index + 1⟩

end Registry
end LinkRegistry
