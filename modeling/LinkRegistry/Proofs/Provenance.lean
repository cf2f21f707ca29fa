import Mathlib.Data.List.DropRight
import LinkRegistry.Proofs.LastWrite

/-!
# Where the times of a link come from

**Input.** A key, and operations on a new registry, each with its outcome and its time; some of
them may be refused.

**Rule.** The link under a key was created by the first link that was stored under the key
since the key was dropped last.  Its time of creation is the one that this link brought along,
or else the time of that operation, and no later write changes it.  Its time of change is the
time of the last write under the key, whatever times the links and patches carry.

**Results.**
* `Sound.created_of_stores`, `Stores.updated_eq`: the times of a link that is written.
* `Sound.created_eq`, `Effect.updated_eq`: what one operation makes of the times under a key.
* `created_after`, `updated_after`: both times after any operations.
* `times_after`: the times of a link that is stored.
-/

namespace LinkRegistry

/-- The time of creation that a link gets from the operation, if it is stored by it and none
was stored before. -/
def Operation.creationTime? (now : Time.Timestamp) : Operation → Option Time.Timestamp
  | .upsert l => some (l.created.getD now)
  | .patch _ _ | .allow _ _ | .get _ | .delete _ | .list _ | .clear => none

/-- An operation that was carried out or refused, and its time. -/
structure Dated where
  time : Time.Timestamp
  deed : Deed

namespace Dated

/-- The time of creation that a link under the key gets, if it is new. -/
def creation? (key : String) (x : Dated) : Option Time.Timestamp :=
  (x.deed.written? key).bind fun _ => x.deed.operation.creationTime? x.time

/-- The time of change that a link under the key gets. -/
def change? (key : String) (x : Dated) : Option Time.Timestamp :=
  (x.deed.written? key).map fun _ => x.time

end Dated

/-- What was done since the key was dropped last. -/
def sinceDrop (key : String) (xs : List Dated) : List Dated :=
  xs.rtakeWhile fun x => !x.deed.drops key

/-- The time of creation that the first link under the key got since it was dropped last. -/
def firstCreation? (key : String) (xs : List Dated) : Option Time.Timestamp :=
  (sinceDrop key xs).findSome? (Dated.creation? key)

/-- The time of the last write under the key since it was dropped last. -/
def lastChange? (key : String) (xs : List Dated) : Option Time.Timestamp :=
  (sinceDrop key xs).reverse.findSome? (Dated.change? key)

section Histories

variable (key : String) (xs : List Dated) (x : Dated)

theorem sinceDrop_concat :
    sinceDrop key (xs ++ [x]) = if x.deed.drops key then [] else sinceDrop key xs ++ [x] := by
  unfold sinceDrop
  rw [List.rtakeWhile_concat]
  cases x.deed.drops key <;> rfl

theorem firstCreation?_concat :
    firstCreation? key (xs ++ [x]) =
      if x.deed.drops key then none else (firstCreation? key xs).or (x.creation? key) := by
  unfold firstCreation?
  rw [sinceDrop_concat]
  split
  · rfl
  · rw [List.findSome?_append, List.findSome?_singleton]

theorem lastChange?_concat :
    lastChange? key (xs ++ [x]) =
      if x.deed.drops key then none else (x.change? key).or (lastChange? key xs) := by
  unfold lastChange?
  rw [sinceDrop_concat]
  split
  · rfl
  · rw [List.reverse_concat, ← List.singleton_append, List.findSome?_append,
      List.findSome?_singleton]

end Histories

namespace Registry

/-- The operations of a run, each with its outcome and its time. -/
def chronicle (r : Registry) (ops : List (Time.Timestamp × Operation)) : List Dated :=
  List.zipWith Dated.mk (ops.map Prod.fst) (r.history ops)

section Steps

variable {r : Registry} {now : Time.Timestamp} {op : Operation} {o : Outcome} {key : String}

theorem Stores.updated_eq {x : String × Link} (h : r.Stores now op x) :
    x.2.updated = some now := by
  cases op with
  | upsert l =>
      obtain ⟨-, -, rfl⟩ := h
      rfl
  | patch id p =>
      obtain ⟨l, -, rfl⟩ := h
      rfl
  | allow id ip =>
      obtain ⟨l, -, rfl⟩ := h
      rfl
  | get _ | delete _ | list _ | clear => cases h

theorem Sound.created_of_find? (hr : r.Sound) {l : Link} (hl : r.find? key = some l)
    (t : Option Time.Timestamp) :
    l.created = ((r.find? key).bind Link.created).or t := by
  obtain ⟨made, hmade⟩ := Option.ne_none_iff_exists'.mp (hr.storedAs_of_find? hl).created_ne
  rw [hl, Option.bind_some, hmade, Option.some_or]

/-- A link that replaces or changes another one is as old as that one. -/
theorem Sound.created_of_stores (hr : r.Sound) {l : Link} (h : r.Stores now op (key, l)) :
    l.created = ((r.find? key).bind Link.created).or (op.creationTime? now) := by
  cases op with
  | upsert m =>
      obtain ⟨-, -, hx⟩ := h
      cases hx
      change r.creationTime m now = _
      unfold creationTime
      cases hold : r.find? m.id with
      | none => rfl
      | some old =>
          have hkept := hr.created_of_find? hold ((Operation.upsert m).creationTime? now)
          rw [hold] at hkept
          exact hkept
  | patch id p =>
      obtain ⟨old, hold, hx⟩ := h
      cases hx
      exact hr.created_of_find? hold _
  | allow id ip =>
      obtain ⟨old, hold, hx⟩ := h
      cases hx
      exact hr.created_of_find? hold _
  | get _ | delete _ | list _ | clear => cases h

/-- What is written under a key is what the operation stores there. -/
theorem Effect.stores_of_written? (h : r.Effect now op o) {l : Link}
    (hl : (Deed.mk op o).written? key = some l) : r.Stores now op (key, l) := by
  cases h with
  | refused f events =>
      rw [Deed.written?_of_error rfl] at hl
      cases hl
  | looked hop reply => cases op <;> cases hop <;> cases hl
  | @stored _ x hx event =>
      obtain ⟨k, m⟩ := x
      unfold Deed.written? at hl
      rw [hx.target?_eq] at hl
      split at hl
      · rename_i hkey
        cases hkey
        cases hl
        exact hx
      · cases hl
  | removed ids events => cases hl
  | cleared => cases hl

/-- Only the first link under a key brings a time of creation. -/
theorem Sound.created_eq (hr : r.Sound) (h : r.Effect now op o) (key : String) :
    (o.registry.find? key).bind Link.created =
      if (Deed.mk op o).drops key then none
      else ((r.find? key).bind Link.created).or (Dated.creation? key ⟨now, op, o⟩) := by
  rw [h.find?_eq]
  split
  · rfl
  · unfold Dated.creation?
    cases hl : (Deed.mk op o).written? key with
    | none => rw [Option.none_or, Option.bind_none, Option.or_none]
    | some l =>
        rw [Option.some_or]
        exact hr.created_of_stores (h.stores_of_written? hl)

/-- Every write under a key brings its own time of change. -/
theorem Effect.updated_eq (h : r.Effect now op o) (key : String) :
    (o.registry.find? key).bind Link.updated =
      if (Deed.mk op o).drops key then none
      else (Dated.change? key ⟨now, op, o⟩).or ((r.find? key).bind Link.updated) := by
  rw [h.find?_eq]
  split
  · rfl
  · unfold Dated.change?
    cases hl : (Deed.mk op o).written? key with
    | none => rw [Option.none_or, Option.map_none, Option.none_or]
    | some l =>
        rw [Option.some_or]
        exact (h.stores_of_written? hl).updated_eq

end Steps

section Runs

variable (ops : List (Time.Timestamp × Operation)) (key : String)

theorem chronicle_append (r : Registry) (xs ys : List (Time.Timestamp × Operation)) :
    r.chronicle (xs ++ ys) = r.chronicle xs ++ (r.run xs).2.chronicle ys := by
  induction xs generalizing r with
  | nil => rfl
  | cons x xs ih => exact congrArg (Dated.mk x.1 ⟨x.2, r.step x.1 x.2⟩ :: ·) (ih _)

theorem chronicle_concat (x : Time.Timestamp × Operation) :
    empty.chronicle (ops ++ [x]) =
      empty.chronicle ops ++ [⟨x.1, x.2, (after ops).step x.1 x.2⟩] :=
  chronicle_append empty ops [x]

theorem created_after :
    ((after ops).find? key).bind Link.created = firstCreation? key (empty.chronicle ops) := by
  -- on the run, from its end: the last operation drops the key, or only a new link counts
  induction ops using List.reverseRecOn with
  | nil => rfl
  | append_singleton ops x ih =>
      have hr := sound_after ops
      rw [after_concat, chronicle_concat, firstCreation?_concat,
        hr.created_eq (hr.effect x.1 x.2), ih]

theorem updated_after :
    ((after ops).find? key).bind Link.updated = lastChange? key (empty.chronicle ops) := by
  induction ops using List.reverseRecOn with
  | nil => rfl
  | append_singleton ops x ih =>
      have heffect := (sound_after ops).effect x.1 x.2
      rw [after_concat, chronicle_concat, lastChange?_concat, heffect.updated_eq, ih]

/-- A link that is stored after any operations was created when the key was first written
since it was dropped last, or at the time that the link then brought along, and it was changed
at the time of the last write under the key. -/
theorem times_after {l : Link} (hl : (after ops).find? key = some l) :
    ∃ created updated, l.created = some created ∧ l.updated = some updated ∧
      firstCreation? key (empty.chronicle ops) = some created ∧
      lastChange? key (empty.chronicle ops) = some updated := by
  have hstored := (sound_after ops).storedAs_of_find? hl
  obtain ⟨created, hcreated⟩ := Option.ne_none_iff_exists'.mp hstored.created_ne
  obtain ⟨updated, hupdated⟩ := Option.ne_none_iff_exists'.mp hstored.updated_ne
  refine ⟨created, updated, hcreated, hupdated, ?_, ?_⟩
  · rw [← created_after, hl]
    exact hcreated
  · rw [← updated_after, hl]
    exact hupdated

/-- An hour of the first day of 2024, in UTC. -/
def trialHour (hour : Fin 24) : Time.Timestamp :=
  { trialTime with time := ⟨hour, 0, 0, 0, hour.isLt, by decide⟩ }

/-- A link that brings along an hour of creation is deleted, and the one that is stored under
its key then is replaced, patched, and not replaced by a loop. -/
def trialRecreation : List (Time.Timestamp × Operation) :=
  [(trialHour 1, .upsert { trialLink "b" "i" "j" with created := some (trialHour 20) }),
    (trialHour 2, .delete ["b"]),
    (trialHour 3, .upsert { trialLink "b" "i" "j" with updated := some (trialHour 21) }),
    (trialHour 4, .upsert { trialLink "b" "i" "j" with created := some (trialHour 22) }),
    (trialHour 5, .patch "b" ⟨none, some 25⟩),
    (trialHour 6, .upsert (trialLink "b" "i" "i"))]

theorem times_after_trial :
    ((after trialRecreation).find? "b").map (fun l => (l.created, l.updated)) =
        some (some (trialHour 3), some (trialHour 5)) ∧
      firstCreation? "b" (empty.chronicle trialRecreation) = some (trialHour 3) ∧
      lastChange? "b" (empty.chronicle trialRecreation) = some (trialHour 5) := by
  have htimes : ((after trialRecreation).find? "b").map (fun l => (l.created, l.updated)) =
      some (some (trialHour 3), some (trialHour 5)) := by
    decide +kernel
  refine ⟨htimes, ?_⟩
  obtain ⟨l, hl, hpair⟩ := Option.map_eq_some_iff.mp htimes
  obtain ⟨hcreated, hupdated⟩ := Prod.mk.inj hpair
  obtain ⟨created, updated, hc, hu, hfirst, hlast⟩ := times_after trialRecreation "b" hl
  rw [hfirst, hlast, ← hcreated, ← hupdated, hc, hu]
  exact ⟨rfl, rfl⟩

end Runs
end Registry
end LinkRegistry
