/-!
# Splitting a text

**Input.** Characters and a separator.

**Rule.** The pieces between the separators, in order; a text without separators is one
piece, and pieces may be empty.

**Results.** Joining the pieces gives the text back (`join_split`), and no piece holds the
separator (`not_mem_of_mem_split`).
-/

namespace LinkRegistry
namespace Text

/-- The pieces between separators. -/
def split (sep : Char) : List Char → List (List Char)
  | [] => [[]]
  | c :: cs =>
      if c = sep then [] :: split sep cs
      else
        match split sep cs with
        | [] => [[c]]
        | piece :: pieces => (c :: piece) :: pieces

/-- The pieces with a separator between neighbours. -/
def join (sep : Char) : List (List Char) → List Char
  | [] => []
  | [piece] => piece
  | piece :: pieces => piece ++ sep :: join sep pieces

theorem split_ne_nil (sep : Char) (cs : List Char) : split sep cs ≠ [] := by
  cases cs with
  | nil => simp [split]
  | cons c cs =>
      by_cases h : c = sep
      · simp [split, h]
      · cases hs : split sep cs <;> simp [split, h, hs]

theorem join_split (sep : Char) (cs : List Char) : join sep (split sep cs) = cs := by
  induction cs with
  | nil => rfl
  | cons c cs ih =>
      cases hs : split sep cs with
      | nil => exact absurd hs (split_ne_nil sep cs)
      | cons piece pieces =>
          rw [hs] at ih
          by_cases h : c = sep
          · simp [split, h, hs, join, ih]
          · cases pieces <;> simp_all [split, join]

theorem not_mem_of_mem_split {sep : Char} {cs piece : List Char}
    (h : piece ∈ split sep cs) : sep ∉ piece := by
  induction cs generalizing piece with
  | nil => simp_all [split]
  | cons c cs ih =>
      by_cases hc : c = sep
      · simp only [split, hc, if_true, List.mem_cons] at h
        rcases h with rfl | h
        · simp
        · exact ih h
      · cases hs : split sep cs with
        | nil => exact absurd hs (split_ne_nil sep cs)
        | cons first others =>
            simp only [split, hc, if_false, hs, List.mem_cons] at h
            rcases h with rfl | h
            · have := @ih first (by simp [hs])
              simp [this, Ne.symm hc]
            · exact ih (by simp [hs, h])

end Text
end LinkRegistry
