import LinkRegistry.Proofs.PeerOrder

/-!
# Links as patches of links

**Input.** Three links, where the second one and the third one are used as patches.

**Rule.** A link is never refused as a patch: it lists two peers or none.  Merging peers is
associative, and two peers that are listed at one interface are merged into an end as one
peer.  So it does not matter whether the third link is merged into the result of the first
two, or into the second one before that is merged into the first one, as long as the third one
joins no interface that the second one does not join.

**Results.**
* `Ends.mergeEntry_merge`: merging peers first.
* `Ends.mergeAll_mergeAll_toList`: merging ends first.
* `Link.merge_ofLink_eq`: the link that a link as a patch leads to.
* `Link.merge_links_assoc`: merging links first.
-/

namespace LinkRegistry
namespace Ends

/-- Both links join the same two interfaces, in either order. -/
def SameInterfaces (e f : Ends) : Prop :=
  (f.first.interface = e.first.interface ∧ f.second.interface = e.second.interface) ∨
    (f.first.interface = e.second.interface ∧ f.second.interface = e.first.interface)

section Pairs

variable {e f g : Ends} {p q : Peer}

/-- Two peers at one interface are merged into an end as the peer that they make. -/
theorem mergeEntry_merge (h : p.interface = q.interface) (e : Ends) :
    e.mergeEntry (p.merge q) = (e.mergeEntry p).mergeEntry q := by
  by_cases hfirst : e.first.interface = p.interface
  · simp [mergeEntry, hfirst, ← h, Peer.mergeLaws.assoc]
  · by_cases hsecond : e.second.interface = p.interface <;>
      simp [mergeEntry, hfirst, hsecond, ← h, Peer.mergeLaws.assoc]

/-- The two ends of a link may be listed in either order, unless they are at one interface. -/
theorem mergeAll_swap_toList (h : f.first.interface ≠ f.second.interface) (e : Ends) :
    e.mergeAll f.swap.toList = e.mergeAll f.toList := by
  have hapart : Apart [f.first] [f.second] := by simpa [Apart] using h
  exact (e.mergeAll_congr hapart.listedAt_append).symm

/-- Where the peers of both pairs come in the same order, each of them is merged once. -/
theorem mergeAll_mergeAll_of_same (h : f.first.interface ≠ f.second.interface)
    (hfirst : g.first.interface = f.first.interface)
    (hsecond : g.second.interface = f.second.interface) (e : Ends) :
    e.mergeAll (f.mergeAll g.toList).toList = (e.mergeAll f.toList).mergeAll g.toList := by
  -- the peer at the second interface of the one pair and that at the first of the other
  have hapart : Apart [g.first] [f.second] := by simpa [Apart, hfirst] using h
  have hmiddle (a : Ends) :
      (a.mergeEntry g.first).mergeEntry f.second = (a.mergeEntry f.second).mergeEntry g.first :=
    a.mergeAll_congr hapart.listedAt_append
  rw [mergeAll_toList_of_same h hfirst hsecond]
  change (e.mergeEntry (f.first.merge g.first)).mergeEntry (f.second.merge g.second) =
    (((e.mergeEntry f.first).mergeEntry f.second).mergeEntry g.first).mergeEntry g.second
  rw [mergeEntry_merge hfirst.symm, mergeEntry_merge hsecond.symm, hmiddle]

theorem mergeAll_mergeAll_toList (h : f.first.interface ≠ f.second.interface)
    (hsame : f.SameInterfaces g) (e : Ends) :
    e.mergeAll (f.mergeAll g.toList).toList = (e.mergeAll f.toList).mergeAll g.toList := by
  rcases hsame with ⟨hfirst, hsecond⟩ | ⟨hfirst, hsecond⟩
  · exact mergeAll_mergeAll_of_same h hfirst hsecond e
  · have hdistinct : g.first.interface ≠ g.second.interface := by
      rw [hfirst, hsecond]
      exact h.symm
    have hswapped := mergeAll_mergeAll_of_same (g := g.swap) h hsecond hfirst e
    rwa [mergeAll_swap_toList hdistinct, mergeAll_swap_toList hdistinct] at hswapped

/-- The ends of a link that takes up those of another one: its own ones, into which the others
are merged, or else the others. -/
def absorb : Option Ends → Option Ends → Option Ends
  | own, none => own
  | none, some f => some f
  | some e, some f => some (e.mergeAll f.toList)

theorem absorb_assoc {es fs gs : Option Ends}
    (h : ∀ f, fs = some f → f.first.interface ≠ f.second.interface)
    (hsame : ∀ f g, fs = some f → gs = some g → f.SameInterfaces g) :
    absorb (absorb es fs) gs = absorb es (absorb fs gs) := by
  cases gs with
  | none => rfl
  | some g =>
      cases fs with
      | none => cases es <;> rfl
      | some f =>
          cases es with
          | none => rfl
          | some e =>
              have hmerged := mergeAll_mergeAll_toList (h f rfl) (hsame f g rfl rfl) e
              exact congrArg some hmerged.symm

end Pairs
end Ends

namespace Link

/-- The link that takes up the ends and the interval of another one. -/
def absorb (a b : Link) : Link :=
  { a with ends := Ends.absorb a.ends b.ends, keepalive := b.keepalive.or a.keepalive }

/-- A link is never refused as a patch. -/
theorem merge_ofLink_eq (a b : Link) : a.merge (Patch.ofLink b) = .ok (a.absorb b) := by
  cases hb : b.ends with
  | none =>
      rw [merge_of_no_peers (by simp [Patch.ofLink, hb])]
      simp [absorb, Ends.absorb, Patch.ofLink, hb]
  | some f =>
      have hpeers : (Patch.ofLink b).peers = some f.toList := by simp [Patch.ofLink, hb]
      cases ha : a.ends with
      | none =>
          rw [merge_of_no_ends ha hpeers]
          simp [absorb, Ends.absorb, Patch.ofLink, ha, hb]
      | some e =>
          rw [merge_of_ends ha, hpeers]
          simp [absorb, Ends.absorb, Patch.ofLink, ha, hb]

/-- Merging `b` and then `c` into a link comes to merging `c` into `b` first, if `b` does not join
an interface to itself and, where both have ends, `c` joins the same interfaces.  None of the
merges is refused. -/
theorem merge_links_assoc (a : Link) {b c : Link}
    (hb : ∀ f, b.ends = some f → f.first.interface ≠ f.second.interface)
    (hbc : ∀ f g, b.ends = some f → c.ends = some g → f.SameInterfaces g) :
    ∃ ab bc abc, a.merge (Patch.ofLink b) = .ok ab ∧ ab.merge (Patch.ofLink c) = .ok abc ∧
      b.merge (Patch.ofLink c) = .ok bc ∧ a.merge (Patch.ofLink bc) = .ok abc := by
  refine ⟨a.absorb b, b.absorb c, (a.absorb b).absorb c, merge_ofLink_eq a b,
    merge_ofLink_eq (a.absorb b) c, merge_ofLink_eq b c, ?_⟩
  rw [merge_ofLink_eq a (b.absorb c)]
  simp only [absorb, Ends.absorb_assoc hb hbc, Option.or_assoc]

/-- A link with a name and a list for one end, and an interval. -/
def trialUpdate : Link :=
  ⟨"u", "", some ⟨⟨"m", "j", some ⟨some ["x"]⟩⟩, ⟨"", "i", some ⟨none⟩⟩⟩, some 25, none, none⟩

/-- A link of the same interfaces in the other order, with an empty list. -/
def trialSuccessor : Link :=
  ⟨"v", "", some ⟨⟨"n", "i", none⟩, ⟨"", "j", some ⟨some []⟩⟩⟩, none, none, none⟩

theorem merge_links_assoc_trial :
    (∀ f, trialUpdate.ends = some f → f.first.interface ≠ f.second.interface) ∧
      (∀ f g, trialUpdate.ends = some f → trialSuccessor.ends = some g → f.SameInterfaces g) ∧
      ∃ ab bc abc, (Registry.trialLink "a" "i" "i").merge (Patch.ofLink trialUpdate) = .ok ab ∧
        ab.merge (Patch.ofLink trialSuccessor) = .ok abc ∧
        trialUpdate.merge (Patch.ofLink trialSuccessor) = .ok bc ∧
        (Registry.trialLink "a" "i" "i").merge (Patch.ofLink bc) = .ok abc := by
  have hdistinct : ∀ f, trialUpdate.ends = some f → f.first.interface ≠ f.second.interface := by
    rintro f ⟨⟩
    decide
  have hsame : ∀ f g, trialUpdate.ends = some f → trialSuccessor.ends = some g →
      f.SameInterfaces g := by
    rintro f g ⟨⟩ ⟨⟩
    exact Or.inr ⟨rfl, rfl⟩
  exact ⟨hdistinct, hsame, merge_links_assoc _ hdistinct hsame⟩

/-- What the third link says of an interface that the second one does not join is lost. -/
example :
    let e : Ends := ⟨⟨"", "i", none⟩, ⟨"", "j", none⟩⟩
    let f : Ends := ⟨⟨"", "i", none⟩, ⟨"", "k", none⟩⟩
    let g : Ends := ⟨⟨"", "i", none⟩, ⟨"n", "j", none⟩⟩
    e.mergeAll (f.mergeAll g.toList).toList ≠ (e.mergeAll f.toList).mergeAll g.toList := by
  decide

end Link
end LinkRegistry
