import LinkRegistry.Proofs.Invariant

/-!
# Patches in turn

**Input.** A link or a registry, and patches that list any number of peers, several of them for
the same interface or for none that the link joins.

**Rule.** A patch merges the peers that it lists one after the other, and no merge moves an end.
So two patches in turn merge what a single one merges that lists the peers of both.  The last
present value of a patch stays the last one when the patch is merged again, even though peers
that were overruled are merged again too.

**Results.**
* `mergeAll_append`, `Link.patched_andThen`: two patches in turn are one.
* `patches_compose`: of a link with ends, and of a link that is stored in a registry.
* `Peer.overlay_overlay`, `Ends.mergeAll_mergeAll`: what is listed twice is merged once.
* `patch_settles`: a patch a second time changes nothing, nor does a link as a patch of itself.
-/

namespace LinkRegistry

/-- Both changes in one: the peers of the first and then those of the second, and the interval
of the second or else that of the first. -/
def Patch.andThen (p q : Patch) : Patch :=
  ⟨some (p.peers.getD [] ++ q.peers.getD []), q.keepalive.or p.keepalive⟩

section Composition

theorem Ends.mergeAll_append (e : Ends) (ps qs : List Peer) :
    e.mergeAll (ps ++ qs) = (e.mergeAll ps).mergeAll qs :=
  List.foldl_append

/-- A link with ends takes two patches in turn as it takes the one that they make. -/
theorem Link.merge_andThen {l : Link} {e : Ends} (he : l.ends = some e) (p q : Patch) :
    ∃ first second, l.merge p = .ok first ∧ first.merge q = .ok second ∧
      l.merge (p.andThen q) = .ok second := by
  refine ⟨_, _, merge_of_ends he p, merge_of_ends rfl q, ?_⟩
  rw [merge_of_ends he]
  simp only [Patch.andThen, Option.getD_some, Ends.mergeAll_append, Option.or_assoc]

/-- The time of change is that of the second patch. -/
theorem Link.patched_andThen (l : Link) (p q : Patch) (now now' : Time.Timestamp) :
    (l.patched p now).patched q now' = l.patched (p.andThen q) now' := by
  obtain ⟨id, network, ends, keepalive, created, updated⟩ := l
  cases ends <;>
    simp only [patched, Patch.andThen, Option.map_none, Option.map_some, Option.getD_some,
      Ends.mergeAll_append, Option.or_assoc]

theorem Entries.store_store (key : String) (l m : Link) (es : Entries) :
    store key m (store key l es) = store key m es := by
  induction es with
  | nil => simp [store]
  | cons x es ih =>
      obtain ⟨k, v⟩ := x
      by_cases hkey : key = k
      · simp [store, hkey]
      · by_cases hlt : key < k
        · simp [store, hkey, hlt]
        · simp [store, hkey, hlt, ih]

namespace Registry

/-- Two patches of the link under the key, made one after the other, leave the links of the
registry as one patch does that is made at the time of the second, and return the same link. -/
structure Composes (r : Registry) (id : String) (p q : Patch) (now now' : Time.Timestamp) :
    Prop where
  accepted : ∃ l, (r.step now (.patch id p)).reply = .ok (.written l (r.index + 1))
  returned : ∃ l,
    ((r.step now (.patch id p)).registry.step now' (.patch id q)).reply =
      .ok (.written l (r.index + 2)) ∧
    (r.step now' (.patch id (p.andThen q))).reply = .ok (.written l (r.index + 1))
  entries :
    ((r.step now (.patch id p)).registry.step now' (.patch id q)).registry.entries =
      (r.step now' (.patch id (p.andThen q))).registry.entries

theorem Sound.composes {r : Registry} (hr : r.Sound) {id : String} {l : Link}
    (hl : r.find? id = some l) (p q : Patch) (now now' : Time.Timestamp) :
    r.Composes id p q now now' := by
  have hfirst : r.step now (.patch id p) = r.commit id (l.patched p now) (Event.patched id) :=
    hr.patch_eq hl now p
  have hboth : r.step now' (.patch id (p.andThen q)) =
      r.commit id (l.patched (p.andThen q) now') (Event.patched id) :=
    hr.patch_eq hl now' (p.andThen q)
  have hsound : (r.commit id (l.patched p now) (Event.patched id)).registry.Sound :=
    hr.commit ((hr.storedAs_of_find? hl).patched p now) _
  have hstored : (r.commit id (l.patched p now) (Event.patched id)).registry.find? id =
      some (l.patched p now) := by
    rw [find?_commit, if_pos rfl]
  have hsecond := hsound.patch_eq hstored now' q
  rw [Link.patched_andThen] at hsecond
  refine ⟨⟨l.patched p now, ?_⟩, ⟨l.patched (p.andThen q) now', ?_, ?_⟩, ?_⟩
  · rw [hfirst]
    rfl
  · rw [hfirst]
    exact congrArg Outcome.reply hsecond
  · rw [hboth]
    rfl
  · rw [hfirst, hboth]
    refine (congrArg (fun o => o.registry.entries) hsecond).trans ?_
    exact Entries.store_store id (l.patched p now) _ r.entries

end Registry

/-- Two patches in turn come to the one that lists the peers of both: for every link with ends,
and for every link that is stored after any operations, up to the index. -/
theorem patches_compose :
    (∀ (l : Link) (e : Ends) (p q : Patch), l.ends = some e →
      ∃ first second, l.merge p = .ok first ∧ first.merge q = .ok second ∧
        l.merge (p.andThen q) = .ok second) ∧
    ∀ (ops : List (Time.Timestamp × Operation)) (id : String) (l : Link) (p q : Patch)
      (now now' : Time.Timestamp), (Registry.after ops).find? id = some l →
      (Registry.after ops).Composes id p q now now' := by
  constructor
  · intro l e p q he
    exact Link.merge_andThen he p q
  · intro ops id l p q now now' hl
    exact (Registry.sound_after ops).composes hl p q now now'

/-- A name and a list for one end, another name for it, and a peer that fits no end. -/
def trialPatch : Patch :=
  ⟨some [⟨"m", "i", some ⟨some ["x"]⟩⟩, ⟨"p", "", none⟩, ⟨"n", "i", some ⟨none⟩⟩], some 25⟩

/-- A list that is taken back, and a name for the other end. -/
def trialAmendment : Patch :=
  ⟨some [⟨"", "i", some ⟨some []⟩⟩, ⟨"o", "j", none⟩], none⟩

theorem patches_compose_trial :
    (∃ first second, (Registry.trialLink "a" "i" "i").merge trialPatch = .ok first ∧
      first.merge trialAmendment = .ok second ∧
      (Registry.trialLink "a" "i" "i").merge (trialPatch.andThen trialAmendment) = .ok second) ∧
    (Registry.after Registry.trial).find? "b" = some Registry.trialResult ∧
      (Registry.after Registry.trial).Composes "b" trialPatch trialAmendment Registry.trialTime
        Registry.trialTime := by
  obtain ⟨hlinks, hstored⟩ := patches_compose
  have hfind : (Registry.after Registry.trial).find? "b" = some Registry.trialResult := by
    decide +kernel
  exact ⟨hlinks _ _ trialPatch trialAmendment rfl, hfind, hstored Registry.trial _ _ _ _ _ _ hfind⟩

end Composition

section Repetition

theorem Peer.overlayRouting_overlayRouting (own : Option Routing) (rs : List Routing) :
    overlayRouting (overlayRouting own rs) rs = overlayRouting own rs := by
  by_cases h : own = none ∧ rs = []
  · simp [overlayRouting, h]
  · cases hlast : (rs.filterMap Routing.allowed).getLast? <;> simp [overlayRouting, h, hlast]

/-- Overruled values are merged again, and overruled again. -/
theorem Peer.overlay_overlay (own : Peer) (ps : List Peer) :
    (own.overlay ps).overlay ps = own.overlay ps := by
  have hnode (names : List String) :
      names.getLastD (names.getLastD own.node) = names.getLastD own.node := by
    cases names with
    | nil => rfl
    | cons n names => rw [List.getLastD_cons, List.getLastD_cons]
  simp only [overlay, hnode, overlayRouting_overlayRouting]

/-- The same peers are listed for the ends that they were merged into. -/
theorem Ends.mergeAll_mergeAll (e : Ends) (ps : List Peer) :
    (e.mergeAll ps).mergeAll ps = e.mergeAll ps := by
  obtain ⟨hfirst, hsecond⟩ := mergeAll_interfaces e ps
  have hlistedFirst : (e.mergeAll ps).listedFirst ps = e.listedFirst ps := by
    unfold listedFirst
    rw [hfirst]
  have hlistedSecond : (e.mergeAll ps).listedSecond ps = e.listedSecond ps := by
    unfold listedSecond
    rw [hfirst, hsecond]
  rw [mergeAll_eq_overlay (e.mergeAll ps), hlistedFirst, hlistedSecond, mergeAll_eq_overlay e,
    Peer.overlay_overlay, Peer.overlay_overlay]

namespace Link

variable {l : Link} {p : Patch}

/-- A patch that lists no peers leaves the ends as they are, or absent. -/
theorem merge_of_no_peers (hp : p.peers = none) :
    l.merge p = .ok { l with keepalive := p.keepalive.or l.keepalive } := by
  unfold merge
  rw [hp]
  cases l.ends <;> rfl

/-- A link without ends takes over two peers that are listed. -/
theorem merge_of_no_ends {e : Ends} (hl : l.ends = none) (hp : p.peers = some e.toList) :
    l.merge p = .ok { l with ends := some e, keepalive := p.keepalive.or l.keepalive } := by
  unfold merge
  rw [hl, hp]
  rfl

theorem merge_again_of_ends {e : Ends} (hl : l.ends = some e) (p : Patch) :
    ∃ merged, l.merge p = .ok merged ∧ merged.merge p = .ok merged := by
  refine ⟨_, merge_of_ends hl p, ?_⟩
  rw [merge_of_ends rfl]
  simp only [Ends.mergeAll_mergeAll, ← Option.or_assoc, Option.or_self]

theorem merge_again_of_no_ends (hl : l.ends = none)
    (hp : p.peers = none ∨ ∃ a b, p.peers = some [a, b] ∧ a.interface ≠ b.interface) :
    ∃ merged, l.merge p = .ok merged ∧ merged.merge p = .ok merged := by
  rcases hp with hp | ⟨a, b, hp, hne⟩
  · refine ⟨_, merge_of_no_peers hp, ?_⟩
    rw [merge_of_no_peers hp]
    simp only [← Option.or_assoc, Option.or_self]
  · let e : Ends := ⟨a, b⟩
    have htaken : e.mergeAll [a, b] = e := Ends.mergeAll_toList_of_ne hne
    refine ⟨_, merge_of_no_ends (e := e) hl hp, ?_⟩
    rw [merge_of_ends rfl, hp, Option.getD_some, htaken]
    simp only [← Option.or_assoc, Option.or_self]

/-- A link that does not join an interface to itself is a patch of itself that changes nothing. -/
theorem merge_ofLink (h : ∀ e, l.ends = some e → e.first.interface ≠ e.second.interface) :
    l.merge (Patch.ofLink l) = .ok l := by
  obtain ⟨id, network, ends, keepalive, created, updated⟩ := l
  cases ends with
  | none =>
      rw [merge_of_no_peers rfl]
      simp only [Patch.ofLink, Option.or_self]
  | some e =>
      have hmerged : e.mergeAll e.toList = e := Ends.mergeAll_toList_of_ne (h e rfl)
      rw [merge_of_ends rfl]
      simp only [Patch.ofLink, Option.map_some, Option.getD_some, hmerged, Option.or_self]

end Link

/-- A patch a second time changes nothing: of a link with ends, whatever the patch lists, and of
a link without them, if the patch lists none or two at different interfaces.  Nor does a link
that does not join an interface to itself, as a patch of itself. -/
theorem patch_settles :
    (∀ (l : Link) (e : Ends) (p : Patch), l.ends = some e →
      ∃ merged, l.merge p = .ok merged ∧ merged.merge p = .ok merged) ∧
    (∀ (l : Link) (p : Patch), l.ends = none →
      (p.peers = none ∨ ∃ a b, p.peers = some [a, b] ∧ a.interface ≠ b.interface) →
      ∃ merged, l.merge p = .ok merged ∧ merged.merge p = .ok merged) ∧
    ∀ l : Link, (∀ e, l.ends = some e → e.first.interface ≠ e.second.interface) →
      l.merge (Patch.ofLink l) = .ok l := by
  refine ⟨?_, ?_, ?_⟩
  · intro l e p hl
    exact Link.merge_again_of_ends hl p
  · intro l p hl hp
    exact Link.merge_again_of_no_ends hl hp
  · intro l hl
    exact Link.merge_ofLink hl

/-- A link of which nothing but the id and an interval is known. -/
def trialOpen (id : String) : Link :=
  ⟨id, "", none, some 5, none, none⟩

/-- Two peers at different interfaces, one of which is empty. -/
def trialAdoption : Patch :=
  ⟨some [⟨"m", "", some ⟨none⟩⟩, ⟨"", "j", none⟩], none⟩

theorem patch_settles_trial :
    (∃ merged, (Registry.trialLink "a" "i" "i").merge trialPatch = .ok merged ∧
      merged.merge trialPatch = .ok merged) ∧
    (∃ merged, (trialOpen "a").merge trialAdoption = .ok merged ∧
      merged.merge trialAdoption = .ok merged) ∧
    (Registry.trialLink "b" "i" "j").merge (Patch.ofLink (Registry.trialLink "b" "i" "j")) =
      .ok (Registry.trialLink "b" "i" "j") := by
  obtain ⟨hends, hnone, hself⟩ := patch_settles
  refine ⟨hends _ _ trialPatch rfl, hnone _ trialAdoption rfl (Or.inr ⟨_, _, rfl, ?_⟩), ?_⟩
  · decide
  · refine hself _ ?_
    rintro e ⟨⟩
    decide

/-- The second end of a loop is merged into the first one. -/
example :
    (Link.merge ⟨"a", "", some ⟨⟨"m", "i", none⟩, ⟨"n", "i", none⟩⟩, none, none, none⟩
        ⟨some [⟨"m", "i", none⟩, ⟨"n", "i", none⟩], none⟩).toOption =
      some ⟨"a", "", some ⟨⟨"n", "i", none⟩, ⟨"n", "i", none⟩⟩, none, none, none⟩ := by
  decide

end Repetition
end LinkRegistry
