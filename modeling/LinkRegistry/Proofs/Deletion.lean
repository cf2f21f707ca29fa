import LinkRegistry.Proofs.AllOrNothing
import LinkRegistry.Proofs.Invariant

/-!
# Deleting all listed links or none

**Input.** A registry that operations lead to, and ids in any order, some of which may be listed
more than once.

**Rule.** If one of the ids is unknown, the first such one is reported and nothing is deleted.
Otherwise the links are deleted one after another, and an id under which nothing is left by then
would be refused.  That never happens, since every id is asked for before and then deleted once,
also if it is listed twice.  It all counts as one write, however many links are deleted.

**Results.**
* `Entries.unobstructed_remove`: deleting a link obstructs the deletion of no other one.
* `Entries.foldl_remove`: what is left after links were deleted one after another.
* `Registry.on_deleteEach`: work in place comes to what the operation comes to.
* `Registry.deletes_after`: the outcome of a deletion after any operations.
-/

namespace LinkRegistry

theorem nodup_eraseDups : (ids : List String) → ids.eraseDups.Nodup
  | [] => List.nodup_nil
  | id :: ids => by
      have hrest := nodup_eraseDups (ids.filter fun k => !k == id)
      rw [List.eraseDups_cons, List.nodup_cons, List.mem_eraseDups]
      exact ⟨by simp, hrest⟩
termination_by ids => ids.length
decreasing_by exact Nat.lt_succ_of_le (List.length_filter_le _ _)

/-- The first id that passes a test is the first one, also if later ones are the same. -/
theorem find?_eraseDups (test : String → Bool) :
    (ids : List String) → ids.eraseDups.find? test = ids.find? test
  | [] => rfl
  | id :: ids => by
      have hrest := find?_eraseDups test (ids.filter fun k => !k == id)
      rw [List.eraseDups_cons, List.find?_cons, List.find?_cons, hrest, List.find?_filter]
      cases hid : test id with
      | true => rfl
      | false =>
          -- what is dropped here does not pass the test either
          have hsame : ∀ k, decide ((!k == id) = true ∧ test k = true) = test k := by
            intro k
            by_cases hk : k = id <;> simp [hk, hid]
          simp only [hsame]
termination_by ids => ids.length
decreasing_by exact Nat.lt_succ_of_le (List.length_filter_le _ _)

namespace Entries

/-- The reason not to delete the link under an id. -/
def missing? (id : String) (es : Entries) : Option Fault :=
  if (es.lookup id).isNone then some (.unknownId id) else none

/-- Delete links in place: ask for every id, and then delete the link under each of them once. -/
def deleteEach (ids : List String) : Work Entries Unit :=
  Work.allOrNothing missing? (fun id es => es.remove [id]) ids.eraseDups

theorem missing?_eq_none_iff {id : String} {es : Entries} :
    missing? id es = none ↔ es.lookup id ≠ none := by
  cases h : es.lookup id <;> simp [missing?, h]

theorem findSome?_missing? (ids : List String) (es : Entries) :
    (ids.findSome? fun id => missing? id es) =
      (ids.find? fun id => (es.lookup id).isNone).map Fault.unknownId := by
  induction ids with
  | nil => rfl
  | cons id ids ih =>
      rw [List.findSome?_cons, List.find?_cons, ih]
      cases h : es.lookup id <;> simp [missing?, h]

theorem remove_nil (es : Entries) : es.remove [] = es :=
  List.filter_eq_self.mpr fun _ _ => by simp

theorem remove_remove (ids ids' : List String) (es : Entries) :
    (es.remove ids).remove ids' = es.remove (ids ++ ids') := by
  simp only [remove, List.filter_filter, List.mem_append]
  refine List.filter_congr fun x _ => ?_
  simp [Bool.and_comm]

theorem remove_congr {ids ids' : List String} (h : ∀ id, id ∈ ids' ↔ id ∈ ids) (es : Entries) :
    es.remove ids' = es.remove ids := by
  simp only [remove, h]

theorem foldl_remove (ids : List String) (es : Entries) :
    ids.foldl (fun es id => es.remove [id]) es = es.remove ids := by
  induction ids generalizing es with
  | nil => exact (remove_nil es).symm
  | cons id ids ih => rw [List.foldl_cons, ih, remove_remove, List.singleton_append]

theorem unobstructed_remove {ids : List String} (h : ids.Nodup) :
    Work.Unobstructed missing? (fun id es => es.remove [id]) ids := by
  refine h.imp ?_
  intro id id' hne es hfound
  have hother : id' ∉ [id] := fun hmem => hne (List.mem_singleton.mp hmem).symm
  rw [missing?_eq_none_iff] at hfound ⊢
  rw [lookup_remove, if_neg hother]
  exact hfound

end Entries

namespace Registry

/-- The id is unknown, and it is listed behind known ones only. -/
def FirstUnknown (r : Registry) (ids : List String) (id : String) : Prop :=
  r.find? id = none ∧ ∃ known rest, ids = known ++ id :: rest ∧ ∀ k ∈ known, r.find? k ≠ none

/-- The outcome of deleting all listed links or none. -/
structure Deletes (r : Registry) (ids : List String) (o : Outcome) : Prop where
  succeeds_iff : (∃ reply, o.reply = .ok reply) ↔ ∀ id ∈ ids, r.find? id ≠ none
  reply_eq : ∀ reply, o.reply = .ok reply →
    reply = .deleted (r.index + 1) ∧ o.registry.index = r.index + 1
  left : ∀ reply, o.reply = .ok reply →
    (∀ key, o.registry.find? key = if key ∈ ids then none else r.find? key) ∧
      ∀ x, x ∈ o.registry.entries ↔ x ∈ r.entries ∧ x.2.id ∉ ids
  refused : ∀ f, o.reply = .error f →
    o.registry = r ∧ ∃ id, r.FirstUnknown ids id ∧ f = .unknownId id
  as_set : ∀ ids', (∀ id, id ∈ ids' ↔ id ∈ ids) → (r.delete ids').registry = o.registry
  in_place : (Entries.deleteEach ids).on r.entries =
    (o.reply.map fun _ => (), o.registry.entries)

theorem Sound.mem_removed_iff {r : Registry} (hr : r.Sound) (ids : List String)
    (x : String × Link) : x ∈ r.entries.remove ids ↔ x ∈ r.entries ∧ x.2.id ∉ ids := by
  rw [Entries.mem_remove]
  refine and_congr_right fun hx => ?_
  rw [(hr.storedAs x hx).id_eq]

theorem firstUnknown_of_find? {r : Registry} {ids : List String} {id : String}
    (h : (ids.find? fun id => (r.find? id).isNone) = some id) : r.FirstUnknown ids id := by
  obtain ⟨hid, known, rest, hids, hknown⟩ := List.find?_eq_some_iff_append.mp h
  refine ⟨Option.isNone_iff_eq_none.mp hid, known, rest, hids, ?_⟩
  intro k hk
  exact Option.isSome_iff_ne_none.mp (by simpa using hknown k hk)

/-- A deletion is refused for the first unknown id, or it is one write. -/
theorem delete_cases (r : Registry) (ids : List String) :
    (∃ id, r.FirstUnknown ids id ∧ r.delete ids = r.refuse (.unknownId id)) ∨
      (∀ id ∈ ids, r.find? id ≠ none) ∧
        r.delete ids = ⟨.ok (.deleted (r.index + 1)),
          [.deleted ids.eraseDups.length (r.index + 1)], r.write (r.entries.remove ids)⟩ := by
  cases h : ids.find? fun id => (r.find? id).isNone with
  | some id => exact Or.inl ⟨id, firstUnknown_of_find? h, delete_of_unknown h⟩
  | none => exact Or.inr ⟨by simpa using h, delete_of_known h⟩

theorem FirstUnknown.mem {r : Registry} {ids : List String} {id : String}
    (h : r.FirstUnknown ids id) : id ∈ ids := by
  obtain ⟨-, known, rest, rfl, -⟩ := h
  exact List.mem_append_right known List.mem_cons_self

/-- The ids that are listed decide what is left, in whatever order and however often. -/
theorem registry_delete_congr {r : Registry} {ids ids' : List String}
    (h : ∀ id, id ∈ ids' ↔ id ∈ ids) : (r.delete ids').registry = (r.delete ids).registry := by
  rcases r.delete_cases ids with ⟨id, hid, ho⟩ | ⟨hknown, ho⟩
  · rcases r.delete_cases ids' with ⟨id', -, ho'⟩ | ⟨hknown', -⟩
    · rw [ho, ho']
      rfl
    · exact absurd hid.1 (hknown' id ((h id).mpr hid.mem))
  · rcases r.delete_cases ids' with ⟨id', hid', -⟩ | ⟨-, ho'⟩
    · exact absurd hid'.1 (hknown id' ((h id').mp hid'.mem))
    · rw [ho, ho', Entries.remove_congr h]

/-- Deleting in place comes to what the operation comes to. -/
theorem on_deleteEach (r : Registry) (ids : List String) :
    (Entries.deleteEach ids).on r.entries =
      ((r.delete ids).reply.map fun _ => (), (r.delete ids).registry.entries) := by
  have hreason : (ids.eraseDups.findSome? fun id => Entries.missing? id r.entries) =
      (ids.find? fun id => (r.find? id).isNone).map Fault.unknownId := by
    rw [Entries.findSome?_missing?, find?_eraseDups]
    rfl
  cases h : ids.find? fun id => (r.find? id).isNone with
  | some id =>
      rw [h, Option.map_some] at hreason
      rw [delete_of_unknown h]
      exact Work.on_allOrNothing_of_some _ hreason
  | none =>
      rw [h, Option.map_none] at hreason
      have hfree := Entries.unobstructed_remove (nodup_eraseDups ids)
      have hleft : r.entries.remove ids.eraseDups = r.entries.remove ids :=
        Entries.remove_congr (fun _ => List.mem_eraseDups) r.entries
      rw [delete_of_known h, Entries.deleteEach, Work.on_allOrNothing_of_none hfree hreason,
        Entries.foldl_remove, hleft]
      rfl

theorem deletes_refuse {r : Registry} {ids : List String} {id : String}
    (hid : r.FirstUnknown ids id) (ho : r.delete ids = r.refuse (.unknownId id)) :
    r.Deletes ids (r.delete ids) where
  succeeds_iff := by
    constructor
    · rintro ⟨reply, hreply⟩
      rw [ho] at hreply
      cases hreply
    · intro hknown
      exact absurd hid.1 (hknown id hid.mem)
  reply_eq := by
    rw [ho]
    rintro reply ⟨⟩
  left := by
    rw [ho]
    rintro reply ⟨⟩
  refused := by
    rw [ho]
    rintro f ⟨⟩
    exact ⟨rfl, id, hid, rfl⟩
  as_set := fun _ h => registry_delete_congr h
  in_place := on_deleteEach r ids

theorem Sound.deletes_write {r : Registry} (hr : r.Sound) {ids : List String}
    (hknown : ∀ id ∈ ids, r.find? id ≠ none)
    (ho : r.delete ids = ⟨.ok (.deleted (r.index + 1)),
      [.deleted ids.eraseDups.length (r.index + 1)], r.write (r.entries.remove ids)⟩) :
    r.Deletes ids (r.delete ids) where
  succeeds_iff := by
    rw [ho]
    exact ⟨fun _ => hknown, fun _ => ⟨_, rfl⟩⟩
  reply_eq := by
    rw [ho]
    rintro reply ⟨⟩
    exact ⟨rfl, rfl⟩
  left := by
    rw [ho]
    rintro reply -
    exact ⟨find?_removed r ids, hr.mem_removed_iff ids⟩
  refused := by
    rw [ho]
    rintro f ⟨⟩
  as_set := fun _ h => registry_delete_congr h
  in_place := on_deleteEach r ids

/-- After any operations, links are deleted as a set of ids, all of them or none. -/
theorem deletes_after (ops : List (Time.Timestamp × Operation)) (now : Time.Timestamp)
    (ids : List String) :
    (after ops).Deletes ids ((after ops).step now (.delete ids)) := by
  change (after ops).Deletes ids ((after ops).delete ids)
  rcases (after ops).delete_cases ids with ⟨id, hid, ho⟩ | ⟨hknown, ho⟩
  · exact deletes_refuse hid ho
  · exact (sound_after ops).deletes_write hknown ho

/-- If an id were deleted as often as it is listed, the second time would be refused, when other
links are gone already. -/
example :
    let es := (after trial).entries
    let often := Work.changeEach Entries.missing? (fun id es => es.remove [id]) ["b", "a", "b", "c"]
    (often.on es).2 = es.remove ["b", "a"] ∧
      ((Entries.deleteEach ["b", "a", "b", "c"]).on es).2 = es.remove ["b", "a", "c"] := by
  decide +kernel

end Registry
end LinkRegistry
