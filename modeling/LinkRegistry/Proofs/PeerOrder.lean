import LinkRegistry.Proofs.Independence
import LinkRegistry.Proofs.PatchComposition

/-!
# Listed peers in another order

**Input.** A link with ends, and patches that list the same peers in different orders, or peers
at different interfaces.

**Rule.** A listed peer is merged into an end at its own interface or into none, and no merge
moves an end.  So of the order of the listed peers only that of the peers at one interface
matters, even for a link that joins an interface to itself and for peers without an interface.

**Results.**
* `Rearranged.listedAt_eq`: what a rearrangement leaves as it is.
* `Ends.mergeAll_congr`: merging depends on what is listed at each interface, and in which order.
* `rearranged_patches_agree`: patches that list the same peers in different orders, and patches
  at different interfaces in either order.
-/

namespace LinkRegistry

/-- Of the listed peers, those at an interface. -/
def listedAt (interface : String) (ps : List Peer) : List Peer :=
  ps.filter fun p => p.interface = interface

/-- The second list has the peers of the first one in another order, given by their places there.
Peers at one interface are still in the order of their places. -/
def Rearranged (ps qs : List Peer) : Prop :=
  ∃ xs : List (Peer × Nat), xs.Perm ps.zipIdx ∧ xs.map Prod.fst = qs ∧
    xs.Pairwise fun a b => a.1.interface = b.1.interface → a.2 < b.2

/-- No peer of the first list is at the interface of one of the second list. -/
def Apart (ps qs : List Peer) : Prop :=
  ∀ p ∈ ps, ∀ q ∈ qs, p.interface ≠ q.interface

section Orders

variable {ps qs : List Peer}

/-- Both orders have the same places at an interface, and these ascend in both. -/
theorem Rearranged.listedAt_eq (h : Rearranged ps qs) (interface : String) :
    listedAt interface ps = listedAt interface qs := by
  obtain ⟨xs, hperm, rfl, horder⟩ := h
  let here : Peer × Nat → Bool := fun x => x.1.interface = interface
  have hascending : (xs.filter here).Pairwise fun a b => a.2 < b.2 := by
    refine (horder.filter here).imp_of_mem ?_
    intro a b ha hb hplaces
    have hinterfaceA : a.1.interface = interface := of_decide_eq_true (List.mem_filter.mp ha).2
    have hinterfaceB : b.1.interface = interface := of_decide_eq_true (List.mem_filter.mp hb).2
    exact hplaces (hinterfaceA.trans hinterfaceB.symm)
  have hplaces : ps.zipIdx.filter here = xs.filter here := by
    refine List.Perm.eq_of_pairwise ?_ ((pairwise_zipIdx ps).filter here) hascending
      (hperm.symm.filter here)
    intro a b _ _ hab hba
    exact absurd hab (Nat.lt_asymm hba)
  have hlisted (ys : List (Peer × Nat)) :
      listedAt interface (ys.map Prod.fst) = (ys.filter here).map Prod.fst := List.filter_map
  calc listedAt interface ps
    _ = listedAt interface (ps.zipIdx.map Prod.fst) := by rw [List.zipIdx_map_fst]
    _ = listedAt interface (xs.map Prod.fst) := by rw [hlisted, hlisted, hplaces]

theorem listedAt_eq_nil_of_apart (h : Apart ps qs) (interface : String) :
    listedAt interface ps = [] ∨ listedAt interface qs = [] := by
  by_cases hps : listedAt interface ps = []
  · exact Or.inl hps
  · obtain ⟨p, hp⟩ := List.exists_mem_of_ne_nil _ hps
    obtain ⟨hmem, hp⟩ := List.mem_filter.mp hp
    have hpi : p.interface = interface := of_decide_eq_true hp
    refine Or.inr (List.filter_eq_nil_iff.mpr fun q hq => ?_)
    have hqi : q.interface ≠ interface := fun hqi => h p hmem q hq (hpi.trans hqi.symm)
    simp [hqi]

/-- Lists at different interfaces may be put together in either order. -/
theorem Apart.listedAt_append (h : Apart ps qs) (interface : String) :
    listedAt interface (ps ++ qs) = listedAt interface (qs ++ ps) := by
  have hsplit (as bs : List Peer) :
      listedAt interface (as ++ bs) = listedAt interface as ++ listedAt interface bs :=
    List.filter_append as bs
  rw [hsplit, hsplit]
  rcases listedAt_eq_nil_of_apart h interface with hnil | hnil <;> simp [hnil]

/-- Merging listed peers depends only on which ones are listed at each interface, and on the
order of these. -/
theorem Ends.mergeAll_congr (e : Ends)
    (h : ∀ interface, listedAt interface ps = listedAt interface qs) :
    e.mergeAll ps = e.mergeAll qs := by
  have hsecond (as : List Peer) : e.listedSecond as =
      (listedAt e.second.interface as).filter fun p => p.interface ≠ e.first.interface := by
    simp [listedSecond, listedAt, List.filter_filter, Bool.and_comm]
  have hfirst : e.listedFirst ps = e.listedFirst qs := h e.first.interface
  rw [mergeAll_eq_overlay, mergeAll_eq_overlay, hfirst, hsecond, hsecond, h]

end Orders

/-- A link with ends takes patches of one interval alike if they list the same peers in orders
that keep those at one interface in place.  Patches that list peers at different interfaces,
and of which at most one has an interval, may come in either order. -/
theorem rearranged_patches_agree :
    (∀ (l : Link) (e : Ends) (p q : Patch), l.ends = some e → p.keepalive = q.keepalive →
      Rearranged (p.peers.getD []) (q.peers.getD []) →
      ∃ merged, l.merge p = .ok merged ∧ l.merge q = .ok merged) ∧
    ∀ (l : Link) (e : Ends) (p q : Patch), l.ends = some e →
      Apart (p.peers.getD []) (q.peers.getD []) → (p.keepalive = none ∨ q.keepalive = none) →
      ∃ first second both, l.merge p = .ok first ∧ first.merge q = .ok both ∧
        l.merge q = .ok second ∧ second.merge p = .ok both := by
  constructor
  · intro l e p q he hinterval horder
    have hends := e.mergeAll_congr horder.listedAt_eq
    refine ⟨_, Link.merge_of_ends he p, ?_⟩
    rw [Link.merge_of_ends he q, hends, hinterval]
  · intro l e p q he hpeers hinterval
    have hends := e.mergeAll_congr hpeers.listedAt_append
    rw [Ends.mergeAll_append, Ends.mergeAll_append] at hends
    have hintervals : q.keepalive.or (p.keepalive.or l.keepalive) =
        p.keepalive.or (q.keepalive.or l.keepalive) := by
      rcases hinterval with h | h <;> simp [h]
    refine ⟨_, _, _, Link.merge_of_ends he p, Link.merge_of_ends rfl q, Link.merge_of_ends he q,
      ?_⟩
    rw [Link.merge_of_ends rfl p, hends, hintervals]

/-- The peers that a patch lists with the one without an interface first. -/
def trialRearrangement : Patch :=
  ⟨some [⟨"p", "", none⟩, ⟨"m", "i", some ⟨some ["x"]⟩⟩, ⟨"n", "i", some ⟨none⟩⟩], some 25⟩

/-- A name and an unset list for the other end, and a peer that fits no end. -/
def trialSupplement : Patch :=
  ⟨some [⟨"o", "j", some ⟨none⟩⟩, ⟨"q", "k", none⟩], none⟩

theorem rearranged_patches_agree_trial :
    Rearranged (trialPatch.peers.getD []) (trialRearrangement.peers.getD []) ∧
    (∃ merged, (Registry.trialLink "a" "i" "i").merge trialPatch = .ok merged ∧
      (Registry.trialLink "a" "i" "i").merge trialRearrangement = .ok merged) ∧
    Apart (trialPatch.peers.getD []) (trialSupplement.peers.getD []) ∧
    ∃ first second both, (Registry.trialLink "b" "i" "j").merge trialPatch = .ok first ∧
      first.merge trialSupplement = .ok both ∧
      (Registry.trialLink "b" "i" "j").merge trialSupplement = .ok second ∧
      second.merge trialPatch = .ok both := by
  obtain ⟨hrearranged, hapart⟩ := rearranged_patches_agree
  have horder : Rearranged (trialPatch.peers.getD []) (trialRearrangement.peers.getD []) :=
    ⟨[(⟨"p", "", none⟩, 1), (⟨"m", "i", some ⟨some ["x"]⟩⟩, 0), (⟨"n", "i", some ⟨none⟩⟩, 2)],
      by decide, rfl, by decide⟩
  have hpeers : Apart (trialPatch.peers.getD []) (trialSupplement.peers.getD []) := by
    simp [Apart, trialPatch, trialSupplement]
  exact ⟨horder, hrearranged _ _ _ _ rfl rfl horder, hpeers,
    hapart _ _ _ _ rfl hpeers (Or.inr rfl)⟩

/-- The order of the peers at one interface matters. -/
example :
    (⟨⟨"l", "i", none⟩, ⟨"", "j", none⟩⟩ : Ends).mergeAll [⟨"m", "i", none⟩, ⟨"n", "i", none⟩] ≠
      (⟨⟨"l", "i", none⟩, ⟨"", "j", none⟩⟩ : Ends).mergeAll
        [⟨"n", "i", none⟩, ⟨"m", "i", none⟩] := by
  decide

end LinkRegistry
