import Mathlib.Data.List.Induction
import LinkRegistry.Proofs.Invariant

/-!
# The index counts the writes

**Input.** A registry that operations lead to, and further operations, any of which may be
refused.

**Rule.** A refused operation and one that only looks leave the registry as it was.  A write
that succeeds raises the index by one and returns it, whatever it writes, and clearing
takes the index back to zero.

**Results.**
* `Effect.accounts`: what one operation does to the registry and its index.
* `Sound.indexes_history`: the indexes that writes return as long as nothing is cleared.
* `index_after`: the index is the number of writes since the registry was cleared last.
* `accounts_after`: both, for every registry that operations lead to.
-/

namespace LinkRegistry

/-- The index that a write reached. -/
def Reply.writtenIndex? : Reply → Option Nat
  | .written _ index | .deleted index => some index
  | .found _ _ | .listed _ | .cleared => none

/-- An operation that was carried out or refused. -/
structure Deed where
  operation : Operation
  outcome : Outcome

namespace Deed

/-- The operation cleared the registry. -/
def clears (d : Deed) : Bool :=
  d.operation == .clear

/-- The operation was a write, and it succeeded. -/
def wrote (d : Deed) : Bool :=
  d.operation.isWrite && d.outcome.reply.isOk

/-- The index that was returned, if the operation was a write that succeeded. -/
def index? (d : Deed) : Option Nat :=
  if d.wrote then d.outcome.reply.toOption.bind Reply.writtenIndex? else none

end Deed

namespace Registry

/-- What an operation does to a registry: nothing if it is refused or only looks, and if it is
a write that succeeds, it returns the next index. -/
structure Accounts (r : Registry) (d : Deed) : Prop where
  unchanged_of_error : ∀ f, d.outcome.reply = .error f → d.outcome.registry = r
  unchanged_of_look : d.operation.isLook = true → d.outcome.registry = r
  write : ∀ reply, d.operation.isWrite = true → d.outcome.reply = .ok reply →
    d.outcome.registry.index = r.index + 1 ∧ reply.writtenIndex? = some (r.index + 1)

/-- The operations of a run, each with its outcome. -/
def history (r : Registry) (ops : List (Time.Timestamp × Operation)) : List Deed :=
  List.zipWith Deed.mk (ops.map Prod.snd) (r.run ops).1

section Steps

variable {r : Registry}

theorem Stores.isLook_eq {now : Time.Timestamp} {op : Operation} {x : String × Link}
    (h : r.Stores now op x) : op.isLook = false := by
  cases op with
  | upsert _ | patch _ _ | allow _ _ => rfl
  | get _ | delete _ | list _ | clear => cases h

theorem accounts_write {op : Operation} {o : Outcome} {reply : Reply} (hop : op.isLook = false)
    (hreply : o.reply = .ok reply) (hregistry : o.registry.index = r.index + 1)
    (hindex : reply.writtenIndex? = some (r.index + 1)) : r.Accounts ⟨op, o⟩ where
  unchanged_of_error := by
    intro f hf
    cases hreply.symm.trans hf
  unchanged_of_look := by
    intro hlook
    cases hop.symm.trans hlook
  write := by
    intro reply' _ hreply'
    cases hreply.symm.trans hreply'
    exact ⟨hregistry, hindex⟩

theorem Effect.accounts {now : Time.Timestamp} {op : Operation} {o : Outcome}
    (h : r.Effect now op o) : r.Accounts ⟨op, o⟩ := by
  cases h with
  | refused f events =>
      refine ⟨fun _ _ => rfl, fun _ => rfl, ?_⟩
      intro reply _ hok
      cases hok
  | looked hop reply =>
      refine ⟨fun _ _ => rfl, fun _ => rfl, ?_⟩
      intro reply' hwrite _
      cases op <;> cases hop <;> cases hwrite
  | stored hx event => exact accounts_write (Stores.isLook_eq hx) rfl rfl rfl
  | removed ids events => exact accounts_write rfl rfl rfl rfl
  | cleared =>
      refine ⟨?_, ?_, ?_⟩
      · intro f hf
        cases hf
      · intro hlook
        cases hlook
      · intro reply hwrite
        cases hwrite

theorem Sound.accounts (hr : r.Sound) (now : Time.Timestamp) (op : Operation) :
    r.Accounts ⟨op, r.step now op⟩ :=
  (hr.effect now op).accounts

theorem Accounts.of_wrote {d : Deed} (h : r.Accounts d) (hwrote : d.wrote = true) :
    d.outcome.registry.index = r.index + 1 ∧ d.index? = some (r.index + 1) := by
  obtain ⟨hop, hok⟩ := Bool.and_eq_true_iff.mp hwrote
  cases hreply : d.outcome.reply with
  | error f =>
      rw [hreply] at hok
      cases hok
  | ok reply =>
      obtain ⟨hregistry, hindex⟩ := h.write reply hop hreply
      refine ⟨hregistry, ?_⟩
      unfold Deed.index?
      rw [if_pos hwrote, hreply]
      exact hindex

theorem Accounts.of_not_wrote {d : Deed} (h : r.Accounts d) (hwrote : d.wrote = false)
    (hclears : d.clears = false) : d.outcome.registry = r ∧ d.index? = none := by
  refine ⟨?_, if_neg (Bool.eq_false_iff.mp hwrote)⟩
  cases hreply : d.outcome.reply with
  | error f => exact h.unchanged_of_error f hreply
  | ok reply =>
      have hwrite : d.operation.isWrite = false := by
        simpa [Deed.wrote, hreply, Except.isOk, Except.toBool] using hwrote
      refine h.unchanged_of_look ?_
      -- neither a write nor clearing
      cases hop : d.operation <;> simp_all [Operation.isWrite, Operation.isLook, Deed.clears]

end Steps

section Runs

variable {r : Registry}

theorem history_cons (r : Registry) (x : Time.Timestamp × Operation)
    (ops : List (Time.Timestamp × Operation)) :
    r.history (x :: ops) = ⟨x.2, r.step x.1 x.2⟩ :: (r.step x.1 x.2).registry.history ops :=
  rfl

theorem history_append (r : Registry) (xs ys : List (Time.Timestamp × Operation)) :
    r.history (xs ++ ys) = r.history xs ++ (r.run xs).2.history ys := by
  induction xs generalizing r with
  | nil => rfl
  | cons x xs ih =>
      rw [List.cons_append, history_cons, history_cons, ih, List.cons_append]
      rfl

theorem run_append (r : Registry) (xs ys : List (Time.Timestamp × Operation)) :
    (r.run (xs ++ ys)).2 = ((r.run xs).2.run ys).2 := by
  induction xs generalizing r with
  | nil => rfl
  | cons x xs ih => exact ih _

/-- As long as nothing is cleared, the writes return the indexes in turn. -/
theorem Sound.indexes_history (hr : r.Sound) {ops : List (Time.Timestamp × Operation)}
    (hclear : ∀ x ∈ ops, x.2 ≠ .clear) :
    (r.history ops).filterMap Deed.index? =
      List.range' (r.index + 1) ((r.history ops).countP Deed.wrote) := by
  induction ops generalizing r with
  | nil => rfl
  | cons x ops ih =>
      obtain ⟨now, op⟩ := x
      obtain ⟨hop, hops⟩ := List.forall_mem_cons.mp hclear
      have hrest := ih (hr.step now op) hops
      let d : Deed := ⟨op, r.step now op⟩
      have haccounts : r.Accounts d := hr.accounts now op
      rw [history_cons, List.filterMap_cons, List.countP_cons]
      cases hwrote : d.wrote with
      | true =>
          obtain ⟨hregistry, hindex⟩ := haccounts.of_wrote hwrote
          change (r.step now op).registry.index = r.index + 1 at hregistry
          rw [hregistry] at hrest
          rw [hindex, hrest]
          rfl
      | false =>
          have hclears : d.clears = false := beq_false_of_ne hop
          obtain ⟨hregistry, hindex⟩ := haccounts.of_not_wrote hwrote hclears
          change (r.step now op).registry = r at hregistry
          rw [hregistry] at hrest
          rw [hindex, hregistry, hrest]
          rfl

theorem after_concat (ops : List (Time.Timestamp × Operation)) (x : Time.Timestamp × Operation) :
    after (ops ++ [x]) = ((after ops).step x.1 x.2).registry :=
  run_append empty ops [x]

theorem history_concat (ops : List (Time.Timestamp × Operation))
    (x : Time.Timestamp × Operation) :
    empty.history (ops ++ [x]) = empty.history ops ++ [⟨x.2, (after ops).step x.1 x.2⟩] :=
  history_append empty ops [x]

/-- The index is the number of writes that succeeded since the registry was cleared last. -/
theorem index_after (ops : List (Time.Timestamp × Operation)) :
    (after ops).index =
      ((empty.history ops).reverse.takeWhile fun d => !d.clears).countP Deed.wrote := by
  -- on the run, from its end: only the last operation decides what it adds to the count
  induction ops using List.reverseRecOn with
  | nil => rfl
  | append_singleton ops x ih =>
      obtain ⟨now, op⟩ := x
      let d : Deed := ⟨op, (after ops).step now op⟩
      have haccounts : (after ops).Accounts d := (sound_after ops).accounts now op
      rw [after_concat, history_concat, List.reverse_concat, List.takeWhile_cons]
      cases hclears : d.clears with
      | true =>
          have hop : op = .clear := eq_of_beq hclears
          subst hop
          rfl
      | false =>
          rw [Bool.not_false, if_pos rfl, List.countP_cons, ← ih]
          cases hwrote : d.wrote with
          | true => exact (haccounts.of_wrote hwrote).1
          | false => exact congrArg Registry.index (haccounts.of_not_wrote hwrote hclears).1

/-- After any operations, a further one is accounted for by the index.  The index is the number
of writes since the registry was cleared last, and writes return one index after the other. -/
theorem accounts_after (ops : List (Time.Timestamp × Operation)) :
    (∀ now op, (after ops).Accounts ⟨op, (after ops).step now op⟩) ∧
      (after ops).index =
        ((empty.history ops).reverse.takeWhile fun d => !d.clears).countP Deed.wrote ∧
      ∀ further : List (Time.Timestamp × Operation), (∀ x ∈ further, x.2 ≠ .clear) →
        ((after ops).history further).filterMap Deed.index? =
          List.range' ((after ops).index + 1)
            (((after ops).history further).countP Deed.wrote) := by
  have hr := sound_after ops
  refine ⟨?_, index_after ops, ?_⟩
  · intro now op
    exact hr.accounts now op
  · intro further hclear
    exact hr.indexes_history hclear

end Runs
end Registry
end LinkRegistry
