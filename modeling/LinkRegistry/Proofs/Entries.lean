import LinkRegistry.Registry.Basic

/-!
# Entries in ascending order

**Input.** A list of entries, as a registry keeps it.

**Rule.** Keys ascend strictly, so a key has at most one entry, and looking a key up is the
same as having its entry.

**Results.**
* `Ascending.store`, `Ascending.remove`: writing keeps the order.
* `lookup_eq_some_iff`: a link is found under a key exactly if its entry is there.
* `Ascending.ext`: entries are determined by what is found under each key.
-/

namespace LinkRegistry
namespace Entries

/-- Keys ascend strictly. -/
def Ascending (es : Entries) : Prop :=
  es.Pairwise fun a b => a.1 < b.1

theorem mem_of_mem_store {key : String} {l : Link} {es : Entries} {x : String × Link}
    (hx : x ∈ es.store key l) : x = (key, l) ∨ x ∈ es := by
  induction es with
  | nil => exact Or.inl (List.mem_singleton.mp hx)
  | cons e rest ih =>
      obtain ⟨k, v⟩ := e
      unfold store at hx
      split at hx
      · rcases List.mem_cons.mp hx with h | h
        · exact Or.inl h
        · exact Or.inr (List.mem_cons_of_mem _ h)
      · split at hx
        · rcases List.mem_cons.mp hx with h | h
          · exact Or.inl h
          · exact Or.inr h
        · rcases List.mem_cons.mp hx with h | h
          · exact Or.inr (h ▸ List.mem_cons_self)
          · rcases ih h with h | h
            · exact Or.inl h
            · exact Or.inr (List.mem_cons_of_mem _ h)

theorem Ascending.store {es : Entries} (hes : es.Ascending) (key : String) (l : Link) :
    (es.store key l).Ascending := by
  induction es with
  | nil => exact List.pairwise_singleton _ _
  | cons e rest ih =>
      obtain ⟨k, v⟩ := e
      obtain ⟨hhead, hrest⟩ := List.pairwise_cons.mp hes
      unfold Entries.store
      split
      · rename_i hkey
        subst hkey
        exact List.pairwise_cons.mpr ⟨hhead, hrest⟩
      · rename_i hne
        split
        · rename_i hlt
          refine List.pairwise_cons.mpr ⟨?_, hes⟩
          intro x hx
          rcases List.mem_cons.mp hx with rfl | hx
          · exact hlt
          · exact String.lt_trans hlt (hhead x hx)
        · rename_i hlt
          refine List.pairwise_cons.mpr ⟨?_, ih hrest⟩
          intro x hx
          rcases mem_of_mem_store hx with rfl | hx
          · exact Std.lt_of_le_of_ne (String.not_lt.mp hlt) (Ne.symm hne)
          · exact hhead x hx

theorem Ascending.remove {es : Entries} (hes : es.Ascending) (keys : List String) :
    (es.remove keys).Ascending :=
  List.Pairwise.filter _ hes

theorem mem_remove {keys : List String} {es : Entries} {x : String × Link} :
    x ∈ es.remove keys ↔ x ∈ es ∧ x.1 ∉ keys := by
  simp [remove, List.mem_filter]

theorem lookup_cons_of_ne {key k : String} (hne : key ≠ k) (v : Link) (es : Entries) :
    List.lookup key ((k, v) :: es) = es.lookup key := by
  rw [List.lookup_cons, beq_false_of_ne hne]

theorem mem_of_lookup {es : Entries} {key : String} {l : Link}
    (h : es.lookup key = some l) : (key, l) ∈ es := by
  induction es with
  | nil => cases h
  | cons e rest ih =>
      obtain ⟨k, v⟩ := e
      by_cases hk : key = k
      · subst hk
        rw [List.lookup_cons_self] at h
        cases h
        exact List.mem_cons_self
      · rw [lookup_cons_of_ne hk] at h
        exact List.mem_cons_of_mem _ (ih h)

/-- Storing under a key that has no entry adds one. -/
theorem length_store_of_lookup {es : Entries} {key : String} (h : es.lookup key = none)
    (l : Link) : (es.store key l).length = es.length + 1 := by
  induction es with
  | nil => rfl
  | cons e rest ih =>
      obtain ⟨k, v⟩ := e
      by_cases hk : key = k
      · subst hk
        rw [List.lookup_cons_self] at h
        cases h
      · rw [lookup_cons_of_ne hk] at h
        unfold store
        rw [if_neg hk]
        split
        · rfl
        · rw [List.length_cons, ih h, List.length_cons]

theorem Ascending.lookup_of_mem {es : Entries} (hes : es.Ascending) {key : String} {l : Link}
    (h : (key, l) ∈ es) : es.lookup key = some l := by
  induction es with
  | nil => cases h
  | cons e rest ih =>
      obtain ⟨k, v⟩ := e
      obtain ⟨hhead, hrest⟩ := List.pairwise_cons.mp hes
      rcases List.mem_cons.mp h with heq | hmem
      · cases heq
        exact List.lookup_cons_self
      · have hlt : k < key := hhead _ hmem
        have hne : key ≠ k := by
          rintro rfl
          exact String.lt_irrefl _ hlt
        rw [lookup_cons_of_ne hne]
        exact ih hrest hmem

theorem Ascending.lookup_eq_some_iff {es : Entries} (hes : es.Ascending) {key : String}
    {l : Link} : es.lookup key = some l ↔ (key, l) ∈ es :=
  ⟨mem_of_lookup, hes.lookup_of_mem⟩

theorem Ascending.nodup {es : Entries} (hes : es.Ascending) : es.Nodup := by
  refine List.Pairwise.imp ?_ hes
  rintro a b hlt rfl
  exact String.lt_irrefl _ hlt

theorem Ascending.ext {es es' : Entries} (hes : es.Ascending) (hes' : es'.Ascending)
    (h : ∀ key, es.lookup key = es'.lookup key) : es = es' := by
  have hmem : ∀ x : String × Link, x ∈ es ↔ x ∈ es' := by
    intro x
    obtain ⟨key, l⟩ := x
    rw [← hes.lookup_eq_some_iff, ← hes'.lookup_eq_some_iff, h key]
  have hperm : es.Perm es' := (List.perm_ext_iff_of_nodup hes.nodup hes'.nodup).mpr hmem
  -- two entries cannot be ascending both ways
  refine List.Perm.eq_of_pairwise ?_ hes hes' hperm
  intro a b _ _ hab hba
  exact absurd hba (String.lt_asymm hab)

end Entries
end LinkRegistry
