import LinkRegistry.Proofs.WriteCount

/-!
# A link is as the last write left it

**Input.** A key, and operations on a new registry with their outcomes; some of them may be
refused.

**Rule.** An operation writes a link under the key if it stores or changes the link with it,
and succeeds.  It drops the key if it is a deletion that lists the key and succeeds, or if it
clears the registry.  Of everything else the link under the key is independent.

**Results.**
* `Effect.find?_eq`: what one operation makes of the link under a key.
* `find?_after`: the link under a key is the one that the last write under it returned, and
  there is none if the key was dropped since or never written.
* `get_after`: what looking the key up answers.
-/

namespace LinkRegistry

/-- The key under which the operation writes a link. -/
def Operation.target? : Operation → Option String
  | .upsert l => some l.id
  | .patch id _ | .allow id _ => some id
  | .get _ | .delete _ | .list _ | .clear => none

/-- The operation is to take the link under the key away. -/
def Operation.takesAway (key : String) : Operation → Bool
  | .delete ids => decide (key ∈ ids)
  | .clear => true
  | .upsert _ | .patch _ _ | .allow _ _ | .get _ | .list _ => false

/-- The link that a write returned. -/
def Reply.writtenLink? : Reply → Option Link
  | .written l _ => some l
  | .found _ _ | .deleted _ | .listed _ | .cleared => none

namespace Deed

/-- The link that the operation wrote under the key, if it was such a write and succeeded. -/
def written? (key : String) (d : Deed) : Option Link :=
  if d.operation.target? = some key then d.outcome.reply.toOption.bind Reply.writtenLink?
  else none

/-- The operation took the link under the key away, if there was one. -/
def drops (key : String) (d : Deed) : Bool :=
  d.operation.takesAway key && d.outcome.reply.isOk

theorem written?_of_error {d : Deed} {f : Fault} (h : d.outcome.reply = .error f) (key : String) :
    d.written? key = none := by
  unfold written?
  rw [h]
  exact ite_self none

theorem drops_of_error {d : Deed} {f : Fault} (h : d.outcome.reply = .error f) (key : String) :
    d.drops key = false := by
  unfold drops
  rw [h]
  exact Bool.and_false _

end Deed

/-- The link of the last write under the key, unless the key was dropped after it. -/
def lastWritten? (key : String) (ds : List Deed) : Option Link :=
  (ds.reverse.takeWhile fun d => !d.drops key).findSome? (Deed.written? key)

theorem lastWritten?_concat (key : String) (ds : List Deed) (d : Deed) :
    lastWritten? key (ds ++ [d]) =
      if d.drops key then none else (d.written? key).or (lastWritten? key ds) := by
  unfold lastWritten?
  rw [List.reverse_concat, List.takeWhile_cons]
  cases hdrops : d.drops key with
  | true => rfl
  | false =>
      rw [Bool.not_false, if_pos rfl, if_neg Bool.false_ne_true, List.findSome?_cons]
      cases d.written? key <;> rfl

namespace Registry

section Steps

variable {r : Registry} {now : Time.Timestamp} {op : Operation} {o : Outcome}

theorem Stores.target?_eq {x : String × Link} (h : r.Stores now op x) :
    op.target? = some x.1 := by
  cases op with
  | upsert l =>
      obtain ⟨-, -, rfl⟩ := h
      rfl
  | patch id p =>
      obtain ⟨l, -, rfl⟩ := h
      rfl
  | allow id ip =>
      obtain ⟨l, -, rfl⟩ := h
      rfl
  | get _ | delete _ | list _ | clear => cases h

theorem Stores.takesAway_eq {x : String × Link} (h : r.Stores now op x) (key : String) :
    op.takesAway key = false := by
  cases op with
  | upsert _ | patch _ _ | allow _ _ => rfl
  | get _ | delete _ | list _ | clear => cases h

/-- An operation drops the key, or writes a link under it, or leaves it as it is. -/
theorem Effect.find?_eq (h : r.Effect now op o) (key : String) :
    o.registry.find? key =
      if (Deed.mk op o).drops key then none
      else ((Deed.mk op o).written? key).or (r.find? key) := by
  cases h with
  | refused f events =>
      rw [Deed.drops_of_error rfl, Deed.written?_of_error rfl]
      rfl
  | looked hop reply => cases op <;> cases hop <;> rfl
  | @stored _ x hx event =>
      let d : Deed := ⟨op, r.commit x.1 x.2 event⟩
      have hdrops : d.drops key = false := by
        unfold Deed.drops
        rw [hx.takesAway_eq, Bool.false_and]
      change (r.commit x.1 x.2 event).registry.find? key = if d.drops key then none else _
      rw [find?_commit, hdrops, if_neg Bool.false_ne_true]
      by_cases hkey : key = x.1
      · have hwritten : d.written? key = some x.2 :=
          if_pos (hx.target?_eq.trans (congrArg some hkey.symm))
        rw [if_pos hkey, hwritten, Option.some_or]
      · have hwritten : d.written? key = none := by
          refine if_neg fun htarget => hkey ?_
          exact Option.some_inj.mp (htarget.symm.trans hx.target?_eq)
        rw [if_neg hkey, hwritten, Option.none_or]
  | removed ids events =>
      let d : Deed :=
        ⟨.delete ids, .ok (.deleted (r.index + 1)), events, r.write (r.entries.remove ids)⟩
      have hdrops : d.drops key = decide (key ∈ ids) := Bool.and_true _
      have hwritten : d.written? key = none := rfl
      change (r.write (r.entries.remove ids)).find? key = if d.drops key then none else _
      rw [find?_removed, hdrops, hwritten, Option.none_or]
      by_cases hkey : key ∈ ids
      · rw [if_pos hkey, decide_eq_true hkey, if_pos rfl]
      · rw [if_neg hkey, decide_eq_false hkey, if_neg Bool.false_ne_true]
  | cleared => rfl

end Steps

section Runs

variable (ops : List (Time.Timestamp × Operation)) (key : String)

/-- The link under a key is the one of the last write under it, unless it was dropped since. -/
theorem find?_after : (after ops).find? key = lastWritten? key (empty.history ops) := by
  -- on the run, from its end: the last operation decides, or leaves it to those before it
  induction ops using List.reverseRecOn with
  | nil => rfl
  | append_singleton ops x ih =>
      have heffect := (sound_after ops).effect x.1 x.2
      rw [after_concat, history_concat, lastWritten?_concat, heffect.find?_eq, ih]

/-- After any operations, looking a key up finds the link that the last write under the key
returned, and the key is unknown if it was dropped after that write or never written. -/
theorem get_after (now : Time.Timestamp) :
    ((after ops).step now (.get key)).reply =
      (lastWritten? key (empty.history ops)).elim (.error (.unknownId key))
        fun l => .ok (.found l (after ops).index) := by
  change ((after ops).get key).reply = _
  rw [← find?_after]
  cases h : (after ops).find? key with
  | none =>
      rw [get_of_unknown h]
      rfl
  | some l =>
      rw [get_of_known h]
      rfl

end Runs
end Registry
end LinkRegistry
