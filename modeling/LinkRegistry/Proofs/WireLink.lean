import LinkRegistry.Proofs.WireForm

/-!
# Links and their wire forms

**Input.** Links, and bodies that list any number of peers.

**Rule.** A body describes a link if it says the same in every part, and then each of the two
is made from the other.  The only links without a body have a negative interval, and the only
bodies without a link list peers of which there are not two.  A body means the same change
whether it is taken as it is or turned into a link before.

**Results.**
* `toLink_eq_ok_iff`, `ofLink_eq_ok_iff`: both conversions give exactly what is described.
* `toLink_eq_error_iff`: which bodies make no link.
* `Describes.toPatch_eq`: the two ways to a change agree.
* `converts_both_ways`: all of this together.
-/

namespace LinkRegistry
namespace Wire
namespace LinkBody

/-- The body says the same as the link in every part. -/
structure Describes (b : LinkBody) (l : Link) : Prop where
  id : l.id = b.id
  network : l.network = b.network
  peers : b.peers = l.ends.map Ends.toList
  keepalive : l.keepalive = b.keepalive.map Int.ofNat
  created : l.created = b.created
  updated : l.updated = b.updated

section Parts

variable {b : LinkBody}

theorem ends_eq_ok_iff {ends : Option Ends} :
    b.ends = .ok ends ↔ b.peers = ends.map Ends.toList := by
  unfold LinkBody.ends
  cases b.peers with
  | none => cases ends <;> simp
  | some ps =>
      constructor
      · intro h
        dsimp only at h
        cases hlist : Ends.ofList ps with
        | error f =>
            rw [hlist] at h
            cases h
        | ok e =>
            rw [hlist] at h
            cases h
            rw [Ends.ofList_eq_ok_iff.mp hlist]
            rfl
      · intro h
        cases ends with
        | none => cases h
        | some e =>
            cases h
            rfl

theorem keepaliveOf_eq_ok_iff {interval : Option Int} {k : Option Nat} :
    keepaliveOf interval = .ok k ↔ interval = k.map Int.ofNat := by
  rcases interval with _ | n | n
  · cases k <;> simp [keepaliveOf]
  · cases k with
    | none => simp [keepaliveOf]
    | some m =>
        simp only [keepaliveOf, Except.ok.injEq, Option.some.injEq, Option.map_some]
        exact Int.ofNat_inj.symm
  · cases k <;> simp [keepaliveOf, Reading.inside, Reading.fail]

theorem ends_eq_error_iff {f : Fault} :
    b.ends = .error f ↔ f = .endCount ∧ ∃ ps, b.peers = some ps ∧ ps.length ≠ 2 := by
  unfold LinkBody.ends
  match b.peers with
  | none => simp
  | some [_, _] => simp [Ends.ofList, Except.map]
  | some [] | some [_] | some (_ :: _ :: _ :: _) => simp [Ends.ofList, Except.map, eq_comm]

end Parts

variable {b : LinkBody} {l : Link}

theorem toLink_eq_ok_iff : b.toLink = .ok l ↔ b.Describes l := by
  constructor
  · intro h
    unfold toLink at h
    cases hends : b.ends with
    | error f =>
        rw [hends] at h
        cases h
    | ok ends =>
        rw [hends] at h
        cases h
        exact ⟨rfl, rfl, ends_eq_ok_iff.mp hends, rfl, rfl, rfl⟩
  · rintro ⟨hid, hnetwork, hpeers, hkeepalive, hcreated, hupdated⟩
    have hends := ends_eq_ok_iff.mpr hpeers
    unfold toLink
    rw [hends, ← hid, ← hnetwork, ← hkeepalive, ← hcreated, ← hupdated]
    rfl

theorem ofLink_eq_ok_iff : ofLink l = .ok b ↔ b.Describes l := by
  constructor
  · intro h
    obtain ⟨k, hk, rfl⟩ := Reading.exists_of_map_eq_ok h
    exact ⟨rfl, rfl, rfl, keepaliveOf_eq_ok_iff.mp hk, rfl, rfl⟩
  · rintro ⟨hid, hnetwork, hpeers, hkeepalive, hcreated, hupdated⟩
    have hk := keepaliveOf_eq_ok_iff.mpr hkeepalive
    unfold ofLink
    rw [hk, hid, hnetwork, ← hpeers, hcreated, hupdated]
    rfl

/-- Peers that are listed and are not two are the one reason for which a body makes no link. -/
theorem toLink_eq_error_iff {f : Fault} :
    b.toLink = .error f ↔ f = .endCount ∧ ∃ ps, b.peers = some ps ∧ ps.length ≠ 2 := by
  rw [← ends_eq_error_iff]
  unfold toLink
  cases b.ends with
  | error f' =>
      constructor <;> intro h <;> cases h <;> rfl
  | ok ends =>
      constructor <;> intro h <;> cases h

theorem Describes.toPatch_eq (h : b.Describes l) : b.toPatch = Patch.ofLink l := by
  unfold toPatch Patch.ofLink
  rw [h.peers, h.keepalive]

/-- Links and bodies are made from each other, as far as they can be: no interval is negative,
and listed peers are two.  A body that makes a link is the same change as that link. -/
theorem converts_both_ways :
    (∀ l : Link, l.HasWireForm → ∃ b, ofLink l = .ok b ∧ b.toLink = .ok l) ∧
      ∀ b : LinkBody,
        ((∃ f, b.toLink = .error f) ↔ ∃ ps, b.peers = some ps ∧ ps.length ≠ 2) ∧
        (∀ f, b.toLink = .error f → f = .endCount) ∧
        (∀ l, b.toLink = .ok l → ofLink l = .ok b) ∧
        b.toPatch = ⟨b.peers, b.keepalive.map Int.ofNat⟩ ∧
        ∀ l, b.toLink = .ok l → ∀ r : Link, r.merge b.toPatch = r.merge (Patch.ofLink l) := by
  refine ⟨fun l hl => ?_, fun b => ⟨⟨?_, ?_⟩, ?_, ?_, rfl, ?_⟩⟩
  · obtain ⟨b, hb⟩ := exists_ofLink hl
    exact ⟨b, hb, toLink_ofLink hb⟩
  · rintro ⟨f, hf⟩
    exact (toLink_eq_error_iff.mp hf).2
  · intro hpeers
    exact ⟨.endCount, toLink_eq_error_iff.mpr ⟨rfl, hpeers⟩⟩
  · intro f hf
    exact (toLink_eq_error_iff.mp hf).1
  · intro l hl
    exact ofLink_eq_ok_iff.mpr (toLink_eq_ok_iff.mp hl)
  · intro l hl r
    rw [(toLink_eq_ok_iff.mp hl).toPatch_eq]

/-- A loop with an interval of zero, routing without a list at one end and none at the other. -/
def trialLoop : Link :=
  ⟨"", "n", some ⟨⟨"", "i", some ⟨none⟩⟩, ⟨"m", "i", none⟩⟩, some 0, none, none⟩

/-- The body of the loop. -/
def trialLoopBody : LinkBody :=
  ⟨"", "n", some [⟨"", "i", some ⟨none⟩⟩, ⟨"m", "i", none⟩], some 0, none, none⟩

/-- A body that lists one peer. -/
def trialLone : LinkBody :=
  ⟨"c", "", some [⟨"m", "i", none⟩], none, none, none⟩

theorem converts_both_ways_trial :
    trialLoop.HasWireForm ∧ (∃ b, ofLink trialLoop = .ok b ∧ b.toLink = .ok trialLoop) ∧
      trialLoopBody.toLink = .ok trialLoop ∧ ofLink trialLoop = .ok trialLoopBody ∧
      (∀ r : Link, r.merge trialLoopBody.toPatch = r.merge (Patch.ofLink trialLoop)) ∧
      trialLone.peers = some [⟨"m", "i", none⟩] ∧ ∃ f, trialLone.toLink = .error f := by
  have hwire : trialLoop.HasWireForm := by
    rintro k ⟨⟩
    exact Int.le_refl 0
  have hlink : trialLoopBody.toLink = .ok trialLoop := rfl
  obtain ⟨hlinks, hbodies⟩ := converts_both_ways
  obtain ⟨-, -, hback, -, hpatch⟩ := hbodies trialLoopBody
  exact ⟨hwire, hlinks trialLoop hwire, hlink, hback trialLoop hlink, hpatch trialLoop hlink, rfl,
    (hbodies trialLone).1.mpr ⟨_, rfl, by decide⟩⟩

end LinkBody
end Wire
end LinkRegistry
