import LinkRegistry.Proofs.Invariant

/-!
# Changes of stored links

**Input.** A registry that operations lead to, a key, and a patch or a range to allow at
the link under the key.

**Rule.** The change is refused exactly if no link has the key.  Otherwise the changed link
stays the same link at the same interfaces, and it is the only one that changes.

**Results.**
* `amends_step_after`: every patch, every link that serves as a patch, and every range
  changes a link in this way.
-/

namespace LinkRegistry

/-- The same link, created at the same time, with its ends at the same interfaces. -/
structure Link.SamePlace (old new : Link) : Prop where
  id_eq : new.id = old.id
  network_eq : new.network = old.network
  created_eq : new.created = old.created
  interfaces_eq : ∃ e e', old.ends = some e ∧ new.ends = some e' ∧
    e'.first.interface = e.first.interface ∧ e'.second.interface = e.second.interface

/-- The outcome of a change of the link under a key. -/
structure Registry.Amends (r : Registry) (key : String) (o : Outcome) : Prop where
  refused_iff : (∃ f, o.reply = .error f) ↔ r.find? key = none
  fault_eq : ∀ f, o.reply = .error f → f = .unknownId key
  samePlace : ∀ old, r.find? key = some old →
    ∃ new index, o.reply = .ok (.written new index) ∧
      o.registry.find? key = some new ∧ old.SamePlace new
  others : ∀ k, k ≠ key → o.registry.find? k = r.find? k

namespace Link

theorem StoredAs.samePlace_patched {key : String} {l : Link} (hl : l.StoredAs key)
    (p : Patch) (now : Time.Timestamp) : l.SamePlace (l.patched p now) := by
  obtain ⟨e, hends, -⟩ := hl.joined
  obtain ⟨hfirst, hsecond⟩ := e.mergeAll_interfaces (p.peers.getD [])
  exact ⟨rfl, rfl, rfl, e, _, hends, patched_ends hends p now, hfirst, hsecond⟩

theorem StoredAs.samePlace_allowed {key : String} {l : Link} (hl : l.StoredAs key)
    (ip : String) (now : Time.Timestamp) : l.SamePlace (l.allowed ip now) := by
  obtain ⟨e, hends, -⟩ := hl.joined
  exact ⟨rfl, rfl, rfl, e, _, hends, allowed_ends hends ip now, rfl, rfl⟩

end Link

namespace Registry

theorem amends_refuse {r : Registry} {key : String} (h : r.find? key = none) :
    r.Amends key (r.refuse (.unknownId key)) where
  refused_iff := ⟨fun _ => h, fun _ => ⟨_, rfl⟩⟩
  fault_eq := by
    intro f hf
    cases hf
    rfl
  samePlace := by
    intro old hold
    rw [h] at hold
    cases hold
  others := fun _ _ => rfl

theorem amends_commit {r : Registry} {key : String} {old new : Link}
    (h : r.find? key = some old) (hnew : old.SamePlace new) (event : Nat → Event) :
    r.Amends key (r.commit key new event) where
  refused_iff := by
    constructor
    · rintro ⟨f, hf⟩
      cases hf
    · intro hnone
      rw [h] at hnone
      cases hnone
  fault_eq := fun f hf => nomatch hf
  samePlace := by
    intro old' hold
    rw [h] at hold
    cases hold
    refine ⟨new, _, rfl, ?_, hnew⟩
    rw [find?_commit, if_pos rfl]
  others := by
    intro k hk
    rw [find?_commit, if_neg hk]

/-- An outcome amends if it refuses an unknown key, and else writes the same link at the
same interfaces under it. -/
theorem amends_of_cases {r : Registry} {key : String} {o : Outcome}
    (hnone : r.find? key = none → o = r.refuse (.unknownId key))
    (hsome : ∀ old, r.find? key = some old →
      ∃ new event, old.SamePlace new ∧ o = r.commit key new event) : r.Amends key o := by
  cases h : r.find? key with
  | none =>
      rw [hnone h]
      exact amends_refuse h
  | some old =>
      obtain ⟨new, event, hnew, rfl⟩ := hsome old h
      exact amends_commit h hnew event

theorem Sound.amends_patch {r : Registry} (hr : r.Sound) (now : Time.Timestamp)
    (key : String) (p : Patch) : r.Amends key (r.patch now key p) := by
  refine amends_of_cases (fun h => patch_of_unknown h now p) fun old h => ?_
  have hold := hr.storedAs_of_find? h
  exact ⟨_, _, hold.samePlace_patched p now, hr.patch_eq h now p⟩

theorem Sound.amends_allow {r : Registry} (hr : r.Sound) (now : Time.Timestamp)
    (key ip : String) : r.Amends key (r.allow now key ip) := by
  refine amends_of_cases (fun h => allow_of_unknown h now ip) fun old h => ?_
  have hold := hr.storedAs_of_find? h
  exact ⟨_, _, hold.samePlace_allowed ip now, hr.allow_eq h now ip⟩

/-- After any operations, changing a link is refused only because it is unknown, and never
moves it. -/
theorem amends_step_after (ops : List (Time.Timestamp × Operation)) (now : Time.Timestamp)
    (key : String) :
    (∀ p, (after ops).Amends key ((after ops).step now (.patch key p))) ∧
      (∀ l, (after ops).Amends key ((after ops).step now (.patch key (Patch.ofLink l)))) ∧
        ∀ ip, (after ops).Amends key ((after ops).step now (.allow key ip)) :=
  have hr := sound_after ops
  ⟨fun p => hr.amends_patch now key p, fun l => hr.amends_patch now key (Patch.ofLink l),
    fun ip => hr.amends_allow now key ip⟩

end Registry
end LinkRegistry
