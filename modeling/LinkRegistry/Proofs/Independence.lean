import Mathlib.Data.List.Find
import LinkRegistry.Proofs.LastWrite

/-!
# Operations on different links in any order

**Input.** A registry that operations lead to, and further operations, all at one time, each of
which names the keys of the links that it is about.

**Rule.** Such an operation sees nothing but what is stored under the keys that it names, and
changes nothing else but the index, which counts it as one write or not at all.  So two
operations that name no common key have the same answers in either order, up to the index.

**Results.**
* `Sound.answer_congr`, `find?_step_of_not_mem`: what an operation sees and what it leaves.
* `Sound.step_comm`: two operations without a common key, in either order.
* `reordered_after`: operations in any order that keeps those with a common key in place.
-/

namespace LinkRegistry

/-- The places of a list ascend. -/
theorem pairwise_zipIdx {α : Type} (xs : List α) : xs.zipIdx.Pairwise fun a b => a.2 < b.2 := by
  have hrange : (xs.zipIdx.map Prod.snd).Pairwise (· < ·) := by
    rw [List.zipIdx_map_snd]
    exact List.pairwise_lt_range'
  exact List.pairwise_map.mp hrange

namespace Operation

/-- The keys that the operation names. -/
def keys : Operation → List String
  | .upsert l => [l.id]
  | .patch id _ | .allow id _ | .get id => [id]
  | .delete ids => ids
  | .list _ | .clear => []

/-- The operation is about the links with the keys that it names. -/
def isKeyed : Operation → Bool
  | .upsert _ | .patch _ _ | .allow _ _ | .get _ | .delete _ => true
  | .list _ | .clear => false

/-- Some key is named by both operations. -/
def Meets (a b : Operation) : Prop :=
  ∃ key ∈ a.keys, key ∈ b.keys

instance (a b : Operation) : Decidable (a.Meets b) :=
  inferInstanceAs (Decidable (∃ key ∈ a.keys, key ∈ b.keys))

theorem Meets.symm {a b : Operation} (h : a.Meets b) : b.Meets a := by
  obtain ⟨key, ha, hb⟩ := h
  exact ⟨key, hb, ha⟩

theorem target?_ne_of_not_mem {op : Operation} {key : String} (hkey : key ∉ op.keys) :
    op.target? ≠ some key := by
  intro htarget
  cases op with
  | upsert _ | patch _ _ | allow _ _ =>
      cases htarget
      exact hkey List.mem_cons_self
  | get _ | delete _ | list _ | clear => cases htarget

theorem takesAway_of_not_mem {op : Operation} (hop : op.isKeyed = true) {key : String}
    (hkey : key ∉ op.keys) : op.takesAway key = false := by
  cases op with
  | upsert _ | patch _ _ | allow _ _ | get _ => rfl
  | delete ids => exact decide_eq_false hkey
  | list _ | clear => cases hop

end Operation

/-- The reply without the index. -/
def Reply.unindexed : Reply → Reply
  | .written l _ => .written l 0
  | .found l _ => .found l 0
  | .deleted _ => .deleted 0
  | .listed ss => .listed ss
  | .cleared => .cleared

/-- What an operation returns, apart from the index. -/
def Outcome.answer (o : Outcome) : Except Fault Reply :=
  o.reply.map Reply.unindexed

theorem Outcome.isOk_answer (o : Outcome) : o.answer.isOk = o.reply.isOk := by
  unfold answer
  cases o.reply <;> rfl

theorem Outcome.writtenLink?_answer (o : Outcome) :
    o.answer.toOption.bind Reply.writtenLink? = o.reply.toOption.bind Reply.writtenLink? := by
  unfold answer
  cases o.reply with
  | error f => rfl
  | ok reply => cases reply <;> rfl

namespace Deed

section Answers

variable {op : Operation} {o o' : Outcome} (h : o.answer = o'.answer) {key : String}
include h

theorem drops_congr : (mk op o).drops key = (mk op o').drops key := by
  unfold drops
  rw [← o.isOk_answer, ← o'.isOk_answer, h]

theorem written?_congr : (mk op o).written? key = (mk op o').written? key := by
  unfold written?
  rw [← o.writtenLink?_answer, ← o'.writtenLink?_answer, h]

end Answers
end Deed

namespace Registry

/-- The same is stored under each of the keys. -/
def Agree (keys : List String) (r r' : Registry) : Prop :=
  ∀ key ∈ keys, r.find? key = r'.find? key

section Steps

variable {r r' : Registry}

theorem Sound.ext (hr : r.Sound) (hr' : r'.Sound) (hfind : ∀ key, r.find? key = r'.find? key)
    (hindex : r.index = r'.index) : r = r' := by
  obtain ⟨es, n⟩ := r
  obtain ⟨es', n'⟩ := r'
  obtain rfl : es = es' := hr.ascending.ext hr'.ascending hfind
  obtain rfl : n = n' := hindex
  rfl

theorem answer_commit (r : Registry) (key : String) (l : Link) (event : Nat → Event) :
    (r.commit key l event).answer = .ok (.written l 0) := rfl

theorem stored_congr {l : Link} (h : r.find? l.id = r'.find? l.id) (now : Time.Timestamp) :
    r.stored now l = r'.stored now l := by
  unfold stored creationTime
  rw [h]

theorem answer_upsert_congr {l : Link} (h : r.find? l.id = r'.find? l.id)
    (now : Time.Timestamp) : (r.upsert now l).answer = (r'.upsert now l).answer := by
  by_cases hid : l.id = ""
  · rw [upsert_of_noId hid, upsert_of_noId hid]
    rfl
  · cases hvalid : l.validate with
    | error f =>
        rw [upsert_of_invalid hid hvalid, upsert_of_invalid hid hvalid]
        rfl
    | ok u =>
        obtain ⟨event, hl⟩ := upsert_of_valid (r := r) hid hvalid now
        obtain ⟨event', hl'⟩ := upsert_of_valid (r := r') hid hvalid now
        rw [hl, hl', answer_commit, answer_commit, stored_congr h]

theorem answer_delete_congr {ids : List String} (h : Agree ids r r') :
    (r.delete ids).answer = (r'.delete ids).answer := by
  have hsame : (ids.find? fun id => (r.find? id).isNone) =
      ids.find? fun id => (r'.find? id).isNone :=
    List.find?_congr fun id hid => congrArg Option.isNone (h id hid)
  cases hunknown : ids.find? fun id => (r.find? id).isNone with
  | some id =>
      rw [delete_of_unknown hunknown, delete_of_unknown (hsame ▸ hunknown)]
      rfl
  | none =>
      rw [delete_of_known hunknown, delete_of_known (hsame ▸ hunknown)]
      rfl

theorem Sound.answer_patch (hr : r.Sound) (now : Time.Timestamp) (id : String) (p : Patch) :
    (r.patch now id p).answer =
      (r.find? id).elim (.error (.unknownId id)) fun l => .ok (.written (l.patched p now) 0) := by
  cases hl : r.find? id with
  | none =>
      rw [patch_of_unknown hl]
      rfl
  | some l =>
      rw [hr.patch_eq hl]
      rfl

theorem Sound.answer_allow (hr : r.Sound) (now : Time.Timestamp) (id ip : String) :
    (r.allow now id ip).answer =
      (r.find? id).elim (.error (.unknownId id)) fun l =>
        .ok (.written (l.allowed ip now) 0) := by
  cases hl : r.find? id with
  | none =>
      rw [allow_of_unknown hl]
      rfl
  | some l =>
      rw [hr.allow_eq hl]
      rfl

theorem answer_get (r : Registry) (id : String) :
    (r.get id).answer =
      (r.find? id).elim (.error (.unknownId id)) fun l => .ok (.found l 0) := by
  cases hl : r.find? id with
  | none =>
      rw [get_of_unknown hl]
      rfl
  | some l =>
      rw [get_of_known hl]
      rfl

/-- An operation sees nothing but what is stored under the keys that it names. -/
theorem Sound.answer_congr (hr : r.Sound) (hr' : r'.Sound) (now : Time.Timestamp)
    {op : Operation} (hop : op.isKeyed = true) (h : Agree op.keys r r') :
    (r.step now op).answer = (r'.step now op).answer := by
  cases op with
  | upsert l => exact answer_upsert_congr (h l.id List.mem_cons_self) now
  | patch id p =>
      change (r.patch now id p).answer = (r'.patch now id p).answer
      rw [hr.answer_patch, hr'.answer_patch, h id List.mem_cons_self]
  | allow id ip =>
      change (r.allow now id ip).answer = (r'.allow now id ip).answer
      rw [hr.answer_allow, hr'.answer_allow, h id List.mem_cons_self]
  | get id =>
      change (r.get id).answer = (r'.get id).answer
      rw [answer_get, answer_get, h id List.mem_cons_self]
  | delete ids => exact answer_delete_congr h
  | list _ | clear => cases hop

theorem Sound.find?_step_of_not_mem (hr : r.Sound) (now : Time.Timestamp) {op : Operation}
    (hop : op.isKeyed = true) {key : String} (hkey : key ∉ op.keys) :
    (r.step now op).registry.find? key = r.find? key := by
  let d : Deed := ⟨op, r.step now op⟩
  have hdrops : d.drops key = false := by
    unfold Deed.drops
    rw [Operation.takesAway_of_not_mem hop hkey, Bool.false_and]
  have hwritten : d.written? key = none := if_neg (Operation.target?_ne_of_not_mem hkey)
  rw [(hr.effect now op).find?_eq, hdrops, hwritten]
  rfl

theorem Sound.find?_step_congr (hr : r.Sound) (hr' : r'.Sound) {now : Time.Timestamp}
    {op : Operation} (hanswer : (r.step now op).answer = (r'.step now op).answer) {key : String}
    (hfind : r.find? key = r'.find? key) :
    (r.step now op).registry.find? key = (r'.step now op).registry.find? key := by
  rw [(hr.effect now op).find?_eq, (hr'.effect now op).find?_eq, Deed.drops_congr hanswer,
    Deed.written?_congr hanswer, hfind]

theorem Sound.index_step (hr : r.Sound) (now : Time.Timestamp) {op : Operation}
    (hop : op.isKeyed = true) :
    (r.step now op).registry.index =
      r.index + if op.isWrite && (r.step now op).answer.isOk then 1 else 0 := by
  let d : Deed := ⟨op, r.step now op⟩
  have haccounts : r.Accounts d := hr.accounts now op
  have hwrote : d.wrote = (op.isWrite && (r.step now op).answer.isOk) := by
    rw [Outcome.isOk_answer]
    rfl
  rw [← hwrote]
  cases h : d.wrote with
  | true => exact (haccounts.of_wrote h).1
  | false =>
      have hclears : d.clears = false := by
        refine beq_false_of_ne ?_
        rintro rfl
        cases hop
      exact congrArg Registry.index (haccounts.of_not_wrote h hclears).1

/-- After an operation without a common key, another one has the same answer as before it. -/
theorem Sound.answer_step_of_not_meets (hr : r.Sound) (now : Time.Timestamp)
    {a b : Operation} (ha : a.isKeyed = true) (hb : b.isKeyed = true) (h : ¬ a.Meets b) :
    ((r.step now a).registry.step now b).answer = (r.step now b).answer := by
  refine (hr.step now a).answer_congr hr now hb ?_
  intro key hkey
  exact hr.find?_step_of_not_mem now ha fun hmem => h ⟨key, hmem, hkey⟩

/-- Two operations without a common key lead to the same registry in either order. -/
theorem Sound.step_comm (hr : r.Sound) (now : Time.Timestamp) {a b : Operation}
    (ha : a.isKeyed = true) (hb : b.isKeyed = true) (h : ¬ a.Meets b) :
    ((r.step now a).registry.step now b).registry =
      ((r.step now b).registry.step now a).registry := by
  have hra := hr.step now a
  have hrb := hr.step now b
  have hanswerA := hr.answer_step_of_not_meets now hb ha fun hba => h hba.symm
  have hanswerB := hr.answer_step_of_not_meets now ha hb h
  refine (hra.step now b).ext (hrb.step now a) ?_ ?_
  · intro key
    by_cases hkey : key ∈ a.keys
    · have hkeyB : key ∉ b.keys := fun hmem => h ⟨key, hkey, hmem⟩
      rw [hra.find?_step_of_not_mem now hb hkeyB]
      refine hr.find?_step_congr hrb hanswerA.symm ?_
      exact (hr.find?_step_of_not_mem now hb hkeyB).symm
    · rw [hrb.find?_step_of_not_mem now ha hkey]
      refine hra.find?_step_congr hr hanswerB ?_
      exact hr.find?_step_of_not_mem now ha hkey
  · rw [hra.index_step now hb, hrb.index_step now ha, hr.index_step now ha, hr.index_step now hb,
      hanswerA, hanswerB]
    omega

end Steps

/-- The answers of operations that are carried out at one time. -/
def answers (r : Registry) (now : Time.Timestamp) (ops : List Operation) :
    List (Except Fault Reply) :=
  (r.run (ops.map fun op => (now, op))).1.map Outcome.answer

/-- The registry that operations at one time lead to. -/
def result (r : Registry) (now : Time.Timestamp) (ops : List Operation) : Registry :=
  (r.run (ops.map fun op => (now, op))).2

/-- The answers of operations that carry places, each at its place, and the registry after
them. -/
def placed (r : Registry) (now : Time.Timestamp) (xs : List (Operation × Nat)) :
    List (Except Fault Reply × Nat) × Registry :=
  ((r.answers now (xs.map Prod.fst)).zip (xs.map Prod.snd), r.result now (xs.map Prod.fst))

/-- The same answers at the same places, and the same registry at the end. -/
structure Alike (o o' : List (Except Fault Reply × Nat) × Registry) : Prop where
  answers : o.1.Perm o'.1
  registry : o.2 = o'.2

section Runs

variable {r : Registry} {now : Time.Timestamp}

theorem Alike.trans {o o' o'' : List (Except Fault Reply × Nat) × Registry} (h : Alike o o')
    (h' : Alike o' o'') : Alike o o'' :=
  ⟨h.answers.trans h'.answers, h.registry.trans h'.registry⟩

theorem Alike.symm {o o' : List (Except Fault Reply × Nat) × Registry} (h : Alike o o') :
    Alike o' o :=
  ⟨h.answers.symm, h.registry.symm⟩

theorem placed_cons (r : Registry) (now : Time.Timestamp) (x : Operation × Nat)
    (xs : List (Operation × Nat)) :
    r.placed now (x :: xs) =
      (((r.step now x.1).answer, x.2) :: ((r.step now x.1).registry.placed now xs).1,
        ((r.step now x.1).registry.placed now xs).2) :=
  rfl

theorem Alike.cons {x : Operation × Nat} {xs ys : List (Operation × Nat)}
    (h : Alike ((r.step now x.1).registry.placed now xs) ((r.step now x.1).registry.placed now ys)) :
    Alike (r.placed now (x :: xs)) (r.placed now (x :: ys)) := by
  rw [placed_cons, placed_cons]
  exact ⟨h.answers.cons _, h.registry⟩

theorem Sound.alike_swap (hr : r.Sound) {x y : Operation × Nat} (hx : x.1.isKeyed = true)
    (hy : y.1.isKeyed = true) (h : ¬ x.1.Meets y.1) (xs : List (Operation × Nat)) :
    Alike (r.placed now (x :: y :: xs)) (r.placed now (y :: x :: xs)) := by
  have hanswerX := hr.answer_step_of_not_meets now hy hx fun hyx => h hyx.symm
  have hanswerY := hr.answer_step_of_not_meets now hx hy h
  simp only [placed_cons]
  rw [hanswerX, hanswerY, hr.step_comm now hx hy h]
  exact ⟨List.Perm.swap _ _ _, rfl⟩

/-- An operation that shares no key with those before it may as well come first. -/
theorem Sound.alike_middle (hr : r.Sound) {x : Operation × Nat} (hx : x.1.isKeyed = true)
    {before : List (Operation × Nat)}
    (hbefore : ∀ y ∈ before, y.1.isKeyed = true ∧ ¬ y.1.Meets x.1)
    (behind : List (Operation × Nat)) :
    Alike (r.placed now (before ++ x :: behind)) (r.placed now (x :: (before ++ behind))) := by
  induction before generalizing r with
  | nil => exact ⟨List.Perm.refl _, rfl⟩
  | cons y before ih =>
      obtain ⟨⟨hy, hyx⟩, hrest⟩ := List.forall_mem_cons.mp hbefore
      have hfirst : Alike (r.placed now (y :: (before ++ x :: behind)))
          (r.placed now (y :: x :: (before ++ behind))) :=
        (ih (hr.step now y.1) hrest).cons
      exact hfirst.trans (hr.alike_swap hy hx hyx (before ++ behind))

/-- Operations in two orders, where those that meet come in the order of their places in the
one, and all do in the other. -/
theorem Sound.alike_of_perm (hr : r.Sound) {xs ys : List (Operation × Nat)}
    (hkeyed : ∀ x ∈ xs, x.1.isKeyed = true) (hperm : xs.Perm ys)
    (hxs : xs.Pairwise fun a b => a.1.Meets b.1 → a.2 < b.2)
    (hys : ys.Pairwise fun a b => a.2 < b.2) : Alike (r.placed now xs) (r.placed now ys) := by
  -- on the first order: its first operation may come first in the other one, too
  induction xs generalizing r ys with
  | nil =>
      cases hperm.nil_eq
      exact ⟨List.Perm.refl _, rfl⟩
  | cons x xs ih =>
      obtain ⟨hx, hkeyed⟩ := List.forall_mem_cons.mp hkeyed
      obtain ⟨hfirst, hxs⟩ := List.pairwise_cons.mp hxs
      obtain ⟨before, behind, rfl⟩ := List.append_of_mem (hperm.mem_iff.mp List.mem_cons_self)
      obtain ⟨-, -, hcross⟩ := List.pairwise_append.mp hys
      -- what has its place before that of the first operation cannot share a key with it
      have hbefore : ∀ y ∈ before, y.1.isKeyed = true ∧ ¬ y.1.Meets x.1 := by
        intro y hy
        have hlt : y.2 < x.2 := hcross y hy x List.mem_cons_self
        have hmem : y ∈ x :: xs := hperm.mem_iff.mpr (List.mem_append_left _ hy)
        rcases List.mem_cons.mp hmem with rfl | hmem
        · exact absurd hlt (Nat.lt_irrefl _)
        · refine ⟨hkeyed y hmem, fun hmeets => ?_⟩
          have hgt : x.2 < y.2 := hfirst y hmem hmeets.symm
          exact absurd hlt (Nat.lt_asymm hgt)
      have hrest : xs.Perm (before ++ behind) :=
        (hperm.trans List.perm_middle).cons_inv
      have hsorted : (before ++ behind).Pairwise fun a b => a.2 < b.2 :=
        hys.sublist (List.Sublist.append_left (List.sublist_cons_self x behind) before)
      have htail := ih (hr.step now x.1) hkeyed hrest hxs hsorted
      exact htail.cons.trans (hr.alike_middle hx hbefore behind).symm

theorem length_answers (r : Registry) (now : Time.Timestamp) (ops : List Operation) :
    (r.answers now ops).length = ops.length := by
  induction ops generalizing r with
  | nil => rfl
  | cons op ops ih => exact congrArg Nat.succ (ih _)

/-- The places of a list of operations in its own order. -/
theorem placed_zipIdx (r : Registry) (now : Time.Timestamp) (ops : List Operation) :
    r.placed now ops.zipIdx = ((r.answers now ops).zipIdx, r.result now ops) := by
  unfold placed
  rw [List.zipIdx_map_fst, List.zipIdx_map_snd, List.zipIdx_eq_zip_range', length_answers]

/-- The operations in another order, each with its place in the first one.  Those that share a
key are still in the order of their places. -/
structure Reorders (ops : List Operation) (xs : List (Operation × Nat)) : Prop where
  perm : xs.Perm ops.zipIdx
  order : xs.Pairwise fun a b => a.1.Meets b.1 → a.2 < b.2

theorem Reorders.isKeyed {ops : List Operation} {xs : List (Operation × Nat)}
    (h : Reorders ops xs) (hops : ∀ op ∈ ops, op.isKeyed = true) :
    ∀ x ∈ xs, x.1.isKeyed = true := by
  intro x hx
  have hmem : (x.1, x.2) ∈ ops.zipIdx := h.perm.mem_iff.mp hx
  exact hops x.1 (List.mem_of_getElem? (List.mk_mem_zipIdx_iff_getElem?.mp hmem))

/-- After any operations, further ones at one time may be carried out in any order that keeps
those with a common key in place: the registry is the same at the end, and each operation
has the same answer. -/
theorem reordered_after (prior : List (Time.Timestamp × Operation)) (now : Time.Timestamp)
    {ops : List Operation} (hops : ∀ op ∈ ops, op.isKeyed = true)
    {xs : List (Operation × Nat)} (hxs : Reorders ops xs) :
    (after prior).result now (xs.map Prod.fst) = (after prior).result now ops ∧
      (∀ f, ((after prior).result now (xs.map Prod.fst)).list f =
        ((after prior).result now ops).list f) ∧
      ∀ (i : Nat) (x : Operation × Nat), xs[i]? = some x →
        ((after prior).answers now (xs.map Prod.fst))[i]? =
          ((after prior).answers now ops)[x.2]? := by
  have halike : Alike ((after prior).placed now xs) ((after prior).placed now ops.zipIdx) :=
    (sound_after prior).alike_of_perm (hxs.isKeyed hops) hxs.perm hxs.order (pairwise_zipIdx ops)
  rw [placed_zipIdx] at halike
  have hresult : (after prior).result now (xs.map Prod.fst) = (after prior).result now ops :=
    halike.registry
  refine ⟨hresult, fun f => by rw [hresult], ?_⟩
  intro i x hi
  let as := (after prior).answers now (xs.map Prod.fst)
  have hlt : i < as.length := by
    rw [length_answers, List.length_map]
    exact (List.getElem?_eq_some_iff.mp hi).1
  have hmem : (as[i], x.2) ∈ as.zip (xs.map Prod.snd) := by
    refine List.mem_of_getElem? (i := i) ?_
    rw [List.getElem?_zip_eq_some]
    exact ⟨List.getElem?_eq_getElem hlt, by rw [List.getElem?_map, hi]; rfl⟩
  have hplace : ((after prior).answers now ops)[x.2]? = some as[i] :=
    List.mk_mem_zipIdx_iff_getElem?.mp (halike.answers.mem_iff.mp hmem)
  exact (List.getElem?_eq_getElem hlt).trans hplace.symm

/-- A refused deletion, the deletion of one of its links, changes of another link, and a new
link that is looked up. -/
def trialSequel : List Operation :=
  [.upsert (trialLink "d" "i" "j"), .delete ["a", "z"], .patch "b" ⟨none, some 5⟩, .get "d",
    .delete ["a"], .allow "b" "z"]

/-- The same with what is about the link `b` first and what is about the link `d` last. -/
def trialReordering : List (Operation × Nat) :=
  [(.patch "b" ⟨none, some 5⟩, 2), (.allow "b" "z", 5), (.delete ["a", "z"], 1),
    (.delete ["a"], 4), (.upsert (trialLink "d" "i" "j"), 0), (.get "d", 3)]

theorem reordered_after_trial :
    (∀ op ∈ trialSequel, op.isKeyed = true) ∧ Reorders trialSequel trialReordering ∧
      (after trial).result trialTime (trialReordering.map Prod.fst) =
        (after trial).result trialTime trialSequel ∧
      ((after trial).answers trialTime (trialReordering.map Prod.fst))[2]? =
        ((after trial).answers trialTime trialSequel)[1]? ∧
      ((after trial).answers trialTime trialSequel)[1]? = some (.error (.unknownId "z")) := by
  have hkeyed : ∀ op ∈ trialSequel, op.isKeyed = true := by decide
  have hreorders : Reorders trialSequel trialReordering :=
    ⟨by decide +kernel, by decide +kernel⟩
  obtain ⟨hresult, -, hanswers⟩ := reordered_after trial trialTime hkeyed hreorders
  refine ⟨hkeyed, hreorders, hresult, ?_, rfl⟩
  exact hanswers 2 (.delete ["a", "z"], 1) rfl

end Runs
end Registry
end LinkRegistry
