import LinkRegistry.Proofs.Invariant

/-!
# What is stored of a link

**Input.** A registry that operations lead to, a link that is to be stored, and the time.

**Rule.** A link is refused if it has no id, then if it has no ends, and then if both ends are at
one interface.  Any other link is stored under its id, and it is stored as it is but for its
routing and its times: an end without routing gets an empty list, the time of change is now, and
the time of creation is the one of the link that is replaced, or else its own one, or else now.

**Results.**
* `Link.unstorable_or_valid`, `Registry.upsert_of_unstorable`: which links are refused.
* `Registry.replaces_stored`: the form in which a link is stored.
* `Link.Replaces.eq`: of the link that is replaced, only the time of its creation matters.
* `Registry.admits_after`: the outcome of storing any link after any operations.
-/

namespace LinkRegistry

/-- The peer as it is given, but with an empty list if it had no routing at all. -/
structure Peer.Routed (given new : Peer) : Prop where
  node_eq : new.node = given.node
  interface_eq : new.interface = given.interface
  routing_of_some : ∀ own, given.routing = some own → new.routing = some own
  routing_of_none : given.routing = none → new.routing = some ⟨some []⟩

theorem Peer.routed_withRouting (p : Peer) : p.Routed p.withRouting := by
  obtain ⟨node, interface, _ | own⟩ := p
  · exact ⟨rfl, rfl, nofun, fun _ => rfl⟩
  · exact ⟨rfl, rfl, fun _ h => h, nofun⟩

theorem Peer.Routed.eq {p a b : Peer} (ha : p.Routed a) (hb : p.Routed b) : a = b := by
  have hrouting : a.routing = b.routing := by
    cases h : p.routing with
    | none => rw [ha.routing_of_none h, hb.routing_of_none h]
    | some own => rw [ha.routing_of_some own h, hb.routing_of_some own h]
  exact Peer.mk.injEq .. ▸
    ⟨ha.node_eq.trans hb.node_eq.symm, ha.interface_eq.trans hb.interface_eq.symm, hrouting⟩

namespace Link

/-- Why a link cannot be stored.  Each fault is found only where the ones before it are not. -/
inductive Unstorable (l : Link) : Fault → Prop
  | noId (hid : l.id = "") : Unstorable l .noId
  | noEnds (hid : l.id ≠ "") (h : l.ends = none) : Unstorable l .endCount
  | selfLoop {e : Ends} (hid : l.id ≠ "") (h : l.ends = some e)
      (hsame : e.first.interface = e.second.interface) : Unstorable l .selfLoop

/-- The form in which a link replaces another one, or takes a free place, at a time. -/
structure Replaces (given : Link) (old : Option Link) (now : Time.Timestamp) (new : Link) :
    Prop where
  id_eq : new.id = given.id
  network_eq : new.network = given.network
  ends : ∃ e f, given.ends = some e ∧ new.ends = some f ∧
    e.first.Routed f.first ∧ e.second.Routed f.second
  keepalive_eq : new.keepalive = given.keepalive
  created_of_some : ∀ o, old = some o → new.created = o.created
  created_of_none : old = none → new.created = some (given.created.getD now)
  updated_eq : new.updated = some now

theorem unstorable_or_valid (l : Link) :
    (∃ f, l.Unstorable f) ∨ l.id ≠ "" ∧ l.validate = .ok () := by
  by_cases hid : l.id = ""
  · exact Or.inl ⟨_, .noId hid⟩
  · cases hends : l.ends with
    | none => exact Or.inl ⟨_, .noEnds hid hends⟩
    | some e =>
        by_cases hsame : e.first.interface = e.second.interface
        · exact Or.inl ⟨_, .selfLoop hid hends hsame⟩
        · exact Or.inr ⟨hid, (validate_eq_ok_iff l).mpr ⟨e, hends, hsame⟩⟩

section Form

variable {given a b : Link} {old old' : Option Link} {now : Time.Timestamp}

theorem Replaces.created_eq (ha : given.Replaces old now a) (hb : given.Replaces old' now b)
    (h : old.map Link.created = old'.map Link.created) : a.created = b.created := by
  cases old with
  | none =>
      cases old' with
      | none => rw [ha.created_of_none rfl, hb.created_of_none rfl]
      | some o' => cases h
  | some o =>
      cases old' with
      | none => cases h
      | some o' =>
          rw [ha.created_of_some o rfl, hb.created_of_some o' rfl]
          exact Option.some.inj h

/-- What is stored depends on the replaced link only through the time of its creation. -/
theorem Replaces.eq (ha : given.Replaces old now a) (hb : given.Replaces old' now b)
    (h : old.map Link.created = old'.map Link.created) : a = b := by
  obtain ⟨e, f, he, hf, hfirst, hsecond⟩ := ha.ends
  obtain ⟨e', f', he', hf', hfirst', hsecond'⟩ := hb.ends
  cases he.symm.trans he'
  have hends : f = f' := Ends.mk.injEq .. ▸ ⟨hfirst.eq hfirst', hsecond.eq hsecond'⟩
  exact Link.mk.injEq .. ▸
    ⟨ha.id_eq.trans hb.id_eq.symm, ha.network_eq.trans hb.network_eq.symm,
      hf.trans (hends ▸ hf'.symm), ha.keepalive_eq.trans hb.keepalive_eq.symm,
      ha.created_eq hb h, ha.updated_eq.trans hb.updated_eq.symm⟩

end Form
end Link

namespace Registry

/-- What comes of storing a link: it is refused and nothing changes, or its stored form is all
that changes. -/
structure Admits (r : Registry) (now : Time.Timestamp) (l : Link) (o : Outcome) : Prop where
  refused_iff : ∀ f, o.reply = .error f ↔ l.Unstorable f
  kept : ∀ f, o.reply = .error f → o.registry = r
  stored : (∀ f, ¬ l.Unstorable f) → ∃ new, o.reply = .ok (.written new (r.index + 1)) ∧
    o.registry.find? l.id = some new ∧ l.Replaces (r.find? l.id) now new ∧ new.StoredAs l.id
  others : ∀ key, key ≠ l.id → o.registry.find? key = r.find? key
  forgets : ∀ (r' : Registry) (new : Link) (index : Nat),
    (r'.find? l.id).map Link.created = (r.find? l.id).map Link.created →
      o.reply = .ok (.written new index) → (r'.upsert now l).registry.find? l.id = some new

section Upsert

variable {r : Registry} {l : Link} {f : Fault} {now : Time.Timestamp}

theorem upsert_of_unstorable (h : l.Unstorable f) (r : Registry) (now : Time.Timestamp) :
    ∃ events, r.upsert now l = ⟨.error f, events, r⟩ := by
  cases h with
  | noId hid => exact ⟨_, upsert_of_noId hid now⟩
  | noEnds hid h => exact ⟨_, upsert_of_invalid hid (Link.validate_of_no_ends h) now⟩
  | selfLoop hid h hsame =>
      exact ⟨_, upsert_of_invalid hid (Link.validate_of_same h hsame) now⟩

theorem reply_of_unstorable (h : l.Unstorable f) : (r.upsert now l).reply = .error f := by
  obtain ⟨events, ho⟩ := upsert_of_unstorable h r now
  rw [ho]

theorem replaces_stored (hvalid : l.validate = .ok ()) (r : Registry) (now : Time.Timestamp) :
    l.Replaces (r.find? l.id) now (r.stored now l) := by
  obtain ⟨e, hends, -⟩ := (Link.validate_eq_ok_iff l).mp hvalid
  refine ⟨rfl, rfl, ⟨e, e.map Peer.withRouting, hends, ?_, ?_, ?_⟩, rfl, ?_, ?_, rfl⟩
  · simp only [stored, Link.withRouting, hends, Option.map_some]
  · exact e.first.routed_withRouting
  · exact e.second.routed_withRouting
  · intro o ho
    simp only [stored, creationTime, ho]
  · intro ho
    simp only [stored, creationTime, ho]

theorem admits_of_unstorable (h : l.Unstorable f) (r : Registry) (now : Time.Timestamp) :
    r.Admits now l (r.upsert now l) := by
  obtain ⟨events, ho⟩ := upsert_of_unstorable h r now
  exact {
    refused_iff := by
      intro f'
      constructor
      · rw [ho]
        rintro ⟨⟩
        exact h
      · exact reply_of_unstorable
    kept := by
      rw [ho]
      exact fun _ _ => rfl
    stored := fun hnone => absurd h (hnone f)
    others := by
      rw [ho]
      exact fun _ _ => rfl
    forgets := by
      rw [ho]
      rintro r' new index - ⟨⟩ }

theorem Sound.admits_of_valid (hr : r.Sound) (hid : l.id ≠ "") (hvalid : l.validate = .ok ())
    (now : Time.Timestamp) : r.Admits now l (r.upsert now l) := by
  obtain ⟨e, hends, hne⟩ := (Link.validate_eq_ok_iff l).mp hvalid
  obtain ⟨event, ho⟩ := upsert_of_valid (r := r) hid hvalid now
  exact {
    refused_iff := by
      intro f'
      constructor
      · rw [ho]
        rintro ⟨⟩
      · exact reply_of_unstorable
    kept := by
      rw [ho]
      rintro f' ⟨⟩
    stored := by
      intro _
      refine ⟨r.stored now l, ?_, ?_, replaces_stored hvalid r now,
        hr.storedAs_stored hid hends hne now⟩
      · rw [ho]
        rfl
      · rw [ho, find?_commit, if_pos rfl]
    others := by
      intro key hkey
      rw [ho, find?_commit, if_neg hkey]
    forgets := by
      rw [ho]
      rintro r' new index hcreated ⟨⟩
      obtain ⟨event', ho'⟩ := upsert_of_valid (r := r') hid hvalid now
      have hsame : r'.stored now l = r.stored now l :=
        (replaces_stored hvalid r' now).eq (replaces_stored hvalid r now) hcreated
      rw [ho', find?_commit, if_pos rfl, hsame] }

end Upsert

/-- After any operations, the links that can be stored are those with an id and with ends at two
interfaces.  Each of them is stored in the form in which it replaces the link with its id. -/
theorem admits_after (ops : List (Time.Timestamp × Operation)) (now : Time.Timestamp) (l : Link) :
    (after ops).Admits now l ((after ops).step now (.upsert l)) := by
  change (after ops).Admits now l ((after ops).upsert now l)
  rcases l.unstorable_or_valid with ⟨f, hf⟩ | ⟨hid, hvalid⟩
  · exact admits_of_unstorable hf (after ops) now
  · exact (sound_after ops).admits_of_valid hid hvalid now

/-- Nothing of a link is kept but the time of its creation, and an unset list stays unset. -/
example :
    let later := { trialTime with offset := none }
    let given : Link :=
      ⟨"b", "net", some ⟨⟨"", "k", some ⟨none⟩⟩, ⟨"", "i", none⟩⟩, none, some later, none⟩
    ((after trial).upsert later given).registry.find? "b" =
      some ⟨"b", "net", some ⟨⟨"", "k", some ⟨none⟩⟩, ⟨"", "i", some ⟨some []⟩⟩⟩, none,
        some trialTime, some later⟩ := by
  decide +kernel

end Registry
end LinkRegistry
