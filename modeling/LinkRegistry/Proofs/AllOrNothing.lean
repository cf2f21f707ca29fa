import LinkRegistry.Fault

/-!
# Work that is done as a whole or not at all

**Input.** A state that is changed in place, one step for each of some items, where a step may be
refused for a reason that lies in the state.

**Rule.** A refused step ends the work, and what the steps before it did to the state stays done.
That is why a pass over all items, which only asks for the reasons, comes before the pass that
takes the steps.  It is enough if no step gives a reason to refuse a later one: then the steps
are all taken, or none is.

**Results.**
* `on_askEach`: asking reports the first reason, and leaves the state as it was.
* `on_changeEach`: where there is no reason at the beginning, no step is refused.
* `on_allOrNothing_of_some`, `on_allOrNothing_of_none`: both passes.
-/

namespace LinkRegistry

/-- Work on a state, which is kept as it is by then where the work is refused. -/
abbrev Work (σ α : Type) := ExceptT Fault (StateM σ) α

namespace Work

section Defs

variable {σ α ι : Type}

/-- What the work returns, and the state that it leaves. -/
def on (work : Work σ α) (s : σ) : Except Fault α × σ :=
  Id.run (work.run.run s)

/-- The verdict, if there is a reason to refuse and if there is none. -/
def verdict : Option Fault → Except Fault Unit
  | some f => .error f
  | none => .ok ()

/-- Refuse the work if there is a reason in the state. -/
def ask (reason : σ → Option Fault) : Work σ Unit := do
  MonadExcept.ofExcept (verdict (reason (← get)))

/-- Change the state, unless there is a reason to refuse that. -/
def change (reason : σ → Option Fault) (f : σ → σ) : Work σ Unit := do
  ask reason
  modify f

/-- Ask for a reason for each item. -/
def askEach (reason : ι → σ → Option Fault) (items : List ι) : Work σ Unit :=
  items.forM fun i => ask (reason i)

/-- Change the state for each item. -/
def changeEach (reason : ι → σ → Option Fault) (f : ι → σ → σ) (items : List ι) :
    Work σ Unit :=
  items.forM fun i => change (reason i) (f i)

/-- Ask for all reasons, and only then change the state. -/
def allOrNothing (reason : ι → σ → Option Fault) (f : ι → σ → σ) (items : List ι) :
    Work σ Unit := do
  askEach reason items
  changeEach reason f items

/-- No change gives a reason to refuse a later one. -/
def Unobstructed (reason : ι → σ → Option Fault) (f : ι → σ → σ) (items : List ι) : Prop :=
  items.Pairwise fun i j => ∀ s, reason j s = none → reason j (f i s) = none

end Defs

section Steps

variable {σ α β : Type} {work : Work σ α} {next : α → Work σ β} {reason : σ → Option Fault}
  {s s' : σ} {fault : Fault}

theorem on_bind_of_ok {a : α} (h : work.on s = (.ok a, s')) :
    (work >>= next).on s = (next a).on s' := by
  change Id.run ((ExceptT.bindCont next (work.on s).1).run (work.on s).2) = _
  rw [h]
  rfl

theorem on_bind_of_error (h : work.on s = (.error fault, s')) :
    (work >>= next).on s = (.error fault, s') := by
  change Id.run ((ExceptT.bindCont next (work.on s).1).run (work.on s).2) = _
  rw [h]
  rfl

theorem on_ask (reason : σ → Option Fault) (s : σ) :
    (ask reason).on s = (verdict (reason s), s) := by
  change (MonadExcept.ofExcept (verdict (reason s)) : Work σ Unit).on s = _
  cases reason s <;> rfl

theorem on_ask_of_some (h : reason s = some fault) : (ask reason).on s = (.error fault, s) := by
  rw [on_ask, h]
  rfl

theorem on_ask_of_none (h : reason s = none) : (ask reason).on s = (.ok (), s) := by
  rw [on_ask, h]
  rfl

theorem on_change_of_none (f : σ → σ) (h : reason s = none) :
    (change reason f).on s = (.ok (), f s) :=
  on_bind_of_ok (on_ask_of_none h)

end Steps

section Passes

variable {σ ι : Type} {reason : ι → σ → Option Fault} {f : ι → σ → σ} {items : List ι} {s : σ}
  {fault : Fault}

theorem on_askEach (reason : ι → σ → Option Fault) (items : List ι) (s : σ) :
    (askEach reason items).on s = (verdict (items.findSome? fun i => reason i s), s) := by
  induction items with
  | nil => rfl
  | cons i items ih =>
      cases h : reason i s with
      | some fault =>
          rw [List.findSome?_cons, h]
          exact on_bind_of_error (on_ask_of_some h)
      | none =>
          rw [List.findSome?_cons, h, ← ih]
          exact on_bind_of_ok (on_ask_of_none h)

/-- A step finds no reason that was not there at the beginning. -/
theorem on_changeEach (hfree : Unobstructed reason f items)
    (h : ∀ i ∈ items, reason i s = none) :
    (changeEach reason f items).on s = (.ok (), items.foldl (fun s i => f i s) s) := by
  induction items generalizing s with
  | nil => rfl
  | cons i items ih =>
      obtain ⟨hhead, hrest⟩ := List.pairwise_cons.mp hfree
      have hstep : (change (reason i) (f i)).on s = (.ok (), f i s) :=
        on_change_of_none (f i) (h i List.mem_cons_self)
      have hlater : ∀ j ∈ items, reason j (f i s) = none := fun j hj =>
        hhead j hj s (h j (List.mem_cons_of_mem i hj))
      rw [List.foldl_cons, ← ih hrest hlater]
      exact on_bind_of_ok hstep

theorem on_allOrNothing_of_some (f : ι → σ → σ)
    (h : (items.findSome? fun i => reason i s) = some fault) :
    (allOrNothing reason f items).on s = (.error fault, s) := by
  have hask : (askEach reason items).on s = (.error fault, s) := by
    rw [on_askEach, h]
    rfl
  exact on_bind_of_error hask

theorem on_allOrNothing_of_none (hfree : Unobstructed reason f items)
    (h : (items.findSome? fun i => reason i s) = none) :
    (allOrNothing reason f items).on s = (.ok (), items.foldl (fun s i => f i s) s) := by
  have hask : (askEach reason items).on s = (.ok (), s) := by
    rw [on_askEach, h]
    rfl
  rw [← on_changeEach hfree (List.findSome?_eq_none_iff.mp h)]
  exact on_bind_of_ok hask

end Passes
end Work
end LinkRegistry
