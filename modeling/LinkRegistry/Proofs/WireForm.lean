import LinkRegistry.Proofs.Invariant
import LinkRegistry.Service.Exchange

/-!
# Links that have a wire form

**Input.** A sound registry, an operation, and links to answer with.

**Rule.** A link has a wire form unless its keepalive interval is negative, and an answer with
a link breaks exactly if the link has none.  An operation adds at most one entry to a
registry, so all stored links have a wire form as long as nothing negative comes in.

**Results.**
* `LinkBody.ofLink_cases`: which links have a wire form.
* `Effect.mem`: the entries of a registry after an operation.
* `Sound.presentable_step`: wire forms are kept.
-/

namespace LinkRegistry

/-- The keepalive interval, if there is one, is not negative. -/
def Link.HasWireForm (l : Link) : Prop :=
  ∀ k ∈ l.keepalive, 0 ≤ k

/-- All stored links have a wire form. -/
def Registry.Presentable (r : Registry) : Prop :=
  ∀ x ∈ r.entries, x.2.HasWireForm

/-- The operation brings no negative keepalive interval. -/
def Operation.Presentable : Operation → Prop
  | .upsert l => l.HasWireForm
  | .patch _ p => ∀ k ∈ p.keepalive, 0 ≤ k
  | .allow _ _ | .get _ | .delete _ | .list _ | .clear => True

theorem Link.hasWireForm_of_or {l : Link} {a b : Option Int} (ha : ∀ k ∈ a, 0 ≤ k)
    (hb : ∀ k ∈ b, 0 ≤ k) (h : l.keepalive = a.or b) : l.HasWireForm := by
  intro k hk
  rw [h] at hk
  rcases Option.or_eq_some_iff.mp hk with hk | ⟨-, hk⟩
  · exact ha k hk
  · exact hb k hk

theorem Link.hasWireForm_patched (l : Link) {p : Patch} (hp : ∀ k ∈ p.keepalive, 0 ≤ k)
    (hl : l.HasWireForm) (now : Time.Timestamp) : (l.patched p now).HasWireForm :=
  Link.hasWireForm_of_or hp hl rfl

namespace Wire

/-- A link has a wire form, or its interval is a problem. -/
theorem LinkBody.ofLink_cases (l : Link) :
    (l.HasWireForm ∧ ∃ b, LinkBody.ofLink l = .ok b) ∨
      ¬ l.HasWireForm ∧ ∃ ps, LinkBody.ofLink l = .error ps := by
  unfold LinkBody.ofLink Link.HasWireForm
  rcases l.keepalive with _ | n | n
  · refine Or.inl ⟨?_, _, rfl⟩
    rintro k ⟨⟩
  · refine Or.inl ⟨?_, _, rfl⟩
    rintro k ⟨⟩
    exact Int.natCast_nonneg n
  · refine Or.inr ⟨fun h => ?_, _, rfl⟩
    exact absurd (h _ rfl) (Int.not_le.mpr (Int.negSucc_lt_zero n))

theorem LinkBody.exists_ofLink {l : Link} (h : l.HasWireForm) :
    ∃ b, LinkBody.ofLink l = .ok b := by
  rcases LinkBody.ofLink_cases l with ⟨-, hb⟩ | ⟨hno, -⟩
  · exact hb
  · exact absurd h hno

end Wire

namespace Service.Response

open Wire

theorem ofLink_eq_link {l : Link} {b : LinkBody} (h : LinkBody.ofLink l = .ok b) (index : Nat) :
    ofLink l index = .link ⟨b, Note.ofIndex index⟩ := by
  unfold ofLink
  rw [h]

theorem ofLink_of_hasWireForm {l : Link} (h : l.HasWireForm) (index : Nat) :
    ∃ b, ofLink l index = .link ⟨b, Note.ofIndex index⟩ := by
  obtain ⟨b, hb⟩ := LinkBody.exists_ofLink h
  exact ⟨b, ofLink_eq_link hb index⟩

theorem ofLink_of_not_hasWireForm {l : Link} (h : ¬ l.HasWireForm) (index : Nat) :
    ∃ ps, ofLink l index = .broken ps := by
  rcases LinkBody.ofLink_cases l with ⟨hyes, -⟩ | ⟨-, ps, hps⟩
  · exact absurd hyes h
  · refine ⟨ps, ?_⟩
    unfold ofLink
    rw [hps]

end Service.Response

namespace Registry

/-- Every entry after an operation was there before, or the operation stores it. -/
theorem Effect.mem {r : Registry} {now : Time.Timestamp} {op : Operation} {o : Outcome}
    (h : r.Effect now op o) {x : String × Link} (hx : x ∈ o.registry.entries) :
    x ∈ r.entries ∨ r.Stores now op x := by
  cases h with
  | refused f events => exact Or.inl hx
  | looked hop reply => exact Or.inl hx
  | stored hy event =>
      rcases Entries.mem_of_mem_store hx with rfl | hx
      · exact Or.inr hy
      · exact Or.inl hx
  | removed ids events => exact Or.inl (Entries.mem_remove.mp hx).1
  | cleared => cases hx

theorem Presentable.hasWireForm {r : Registry} (hr : r.Presentable) {id : String} {l : Link}
    (h : r.find? id = some l) : l.HasWireForm :=
  hr _ (Entries.mem_of_lookup h)

theorem Sound.presentable_step {r : Registry} (hr : r.Sound) (hwire : r.Presentable)
    (now : Time.Timestamp) {op : Operation} (hop : op.Presentable) :
    (r.step now op).registry.Presentable := by
  intro x hx
  rcases (hr.effect now op).mem hx with hx | hstores
  · exact hwire x hx
  · cases op with
    | upsert l =>
        obtain ⟨-, -, rfl⟩ := hstores
        exact hop
    | patch id p =>
        obtain ⟨l, hl, rfl⟩ := hstores
        exact l.hasWireForm_patched hop (hwire.hasWireForm hl) now
    | allow id ip =>
        obtain ⟨l, hl, rfl⟩ := hstores
        have hwas : l.HasWireForm := hwire.hasWireForm hl
        exact hwas
    | get _ | delete _ | list _ | clear => cases hstores

end Registry
end LinkRegistry
