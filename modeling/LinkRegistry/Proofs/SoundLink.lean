import LinkRegistry.Proofs.LastPresent
import LinkRegistry.Proofs.MergeLaws

/-!
# Sound links

**Input.** A link that is stored under a key, and a patch or a range to allow.

**Rule.** A sound link has ends at two different interfaces, both with routing, and both of
its times are known.  No change moves an end or takes routing away, so the changed link is
sound again, and nothing can refuse the change.

**Results.**
* `merge_of_sound`, `allow_of_sound`: both changes succeed, with a result given in advance.
* `StoredAs.patched`, `StoredAs.allowed`: the changed link is sound under the same key.
-/

namespace LinkRegistry

/-- Ends at two different interfaces, both with routing. -/
structure Ends.Sound (e : Ends) : Prop where
  distinct : e.first.interface ≠ e.second.interface
  routing_first : e.first.routing ≠ none
  routing_second : e.second.routing ≠ none

/-- A sound link that is stored under its own id. -/
structure Link.StoredAs (key : String) (l : Link) : Prop where
  key_ne : key ≠ ""
  id_eq : l.id = key
  joined : ∃ e, l.ends = some e ∧ e.Sound
  created_ne : l.created ≠ none
  updated_ne : l.updated ≠ none

namespace Ends

/-- Each of two peers that are at the same interfaces is merged into the end there. -/
theorem mergeAll_toList_of_same {e f : Ends} (h : e.first.interface ≠ e.second.interface)
    (hfirst : f.first.interface = e.first.interface)
    (hsecond : f.second.interface = e.second.interface) :
    e.mergeAll f.toList = ⟨e.first.merge f.first, e.second.merge f.second⟩ := by
  have hleft : e.mergeEntry f.first = ⟨e.first.merge f.first, e.second⟩ := by
    rw [mergeEntry, if_pos hfirst.symm]
  have hright : (⟨e.first.merge f.first, e.second⟩ : Ends).mergeEntry f.second =
      ⟨e.first.merge f.first, e.second.merge f.second⟩ := by
    simp [mergeEntry, Peer.merge_interface_of_eq hfirst.symm, hsecond, h]
  change (e.mergeEntry f.first).mergeEntry f.second = _
  rw [hleft, hright]

theorem mergeAll_toList_of_ne {e : Ends} (h : e.first.interface ≠ e.second.interface) :
    e.mergeAll e.toList = e := by
  rw [mergeAll_toList_of_same h rfl rfl, Peer.mergeLaws.self, Peer.mergeLaws.self]

theorem Sound.mergeAll {e : Ends} (he : e.Sound) (ps : List Peer) : (e.mergeAll ps).Sound := by
  obtain ⟨hfirst, hsecond⟩ := mergeAll_interfaces e ps
  refine ⟨?_, ?_, ?_⟩
  · rw [hfirst, hsecond]
    exact he.distinct
  · rw [mergeAll_eq_overlay]
    exact Peer.overlay_routing_ne_none he.routing_first _
  · rw [mergeAll_eq_overlay]
    exact Peer.overlay_routing_ne_none he.routing_second _

theorem Sound.allow {e : Ends} (he : e.Sound) (ip : String) : (e.map (Peer.allow ip)).Sound where
  distinct := he.distinct
  routing_first := by simpa [Ends.map, Peer.allow] using he.routing_first
  routing_second := by simpa [Ends.map, Peer.allow] using he.routing_second

theorem Sound.withRouting {e : Ends} (he : e.Sound) : e.map Peer.withRouting = e := by
  obtain ⟨⟨n, i, r⟩, ⟨n', i', r'⟩⟩ := e
  obtain ⟨own, rfl⟩ := Option.ne_none_iff_exists'.mp he.routing_first
  obtain ⟨own', rfl⟩ := Option.ne_none_iff_exists'.mp he.routing_second
  rfl

theorem sound_map_withRouting {e : Ends} (h : e.first.interface ≠ e.second.interface) :
    (e.map Peer.withRouting).Sound :=
  ⟨h, Option.some_ne_none _, Option.some_ne_none _⟩

end Ends

namespace Link

/-- A stored link after a patch. -/
def patched (l : Link) (p : Patch) (now : Time.Timestamp) : Link :=
  { l with
    ends := l.ends.map (Ends.mergeAll · (p.peers.getD []))
    keepalive := p.keepalive.or l.keepalive
    updated := some now }

/-- A stored link after a range is allowed. -/
def allowed (l : Link) (ip : String) (now : Time.Timestamp) : Link :=
  { l with ends := l.ends.map (Ends.map (Peer.allow ip)), updated := some now }

/-- The link as it is, changed last at this time. -/
def renewed (l : Link) (now : Time.Timestamp) : Link :=
  { l with updated := some now }

theorem patched_ends {l : Link} {e : Ends} (hends : l.ends = some e) (p : Patch)
    (now : Time.Timestamp) :
    (l.patched p now).ends = some (e.mergeAll (p.peers.getD [])) := by
  simp only [patched, hends, Option.map_some]

theorem allowed_ends {l : Link} {e : Ends} (hends : l.ends = some e) (ip : String)
    (now : Time.Timestamp) : (l.allowed ip now).ends = some (e.map (Peer.allow ip)) := by
  simp only [allowed, hends, Option.map_some]

theorem StoredAs.patched {key : String} {l : Link} (hl : l.StoredAs key) (p : Patch)
    (now : Time.Timestamp) : (l.patched p now).StoredAs key := by
  obtain ⟨e, hends, he⟩ := hl.joined
  exact ⟨hl.key_ne, hl.id_eq, ⟨_, patched_ends hends p now, he.mergeAll _⟩, hl.created_ne,
    Option.some_ne_none _⟩

theorem StoredAs.allowed {key : String} {l : Link} (hl : l.StoredAs key) (ip : String)
    (now : Time.Timestamp) : (l.allowed ip now).StoredAs key := by
  obtain ⟨e, hends, he⟩ := hl.joined
  exact ⟨hl.key_ne, hl.id_eq, ⟨_, allowed_ends hends ip now, he.allow ip⟩, hl.created_ne,
    Option.some_ne_none _⟩

/-- A sound link as a patch of itself changes nothing but the time of change. -/
theorem patched_ofLink {l : Link} {e : Ends} (hends : l.ends = some e) (he : e.Sound)
    (now : Time.Timestamp) : l.patched (Patch.ofLink l) now = l.renewed now := by
  have hmerged : e.mergeAll e.toList = e := Ends.mergeAll_toList_of_ne he.distinct
  simp only [Link.patched, Link.renewed, Patch.ofLink, hends, Option.map_some, Option.getD_some,
    hmerged, Option.or_self]

theorem withRouting_of_sound {l : Link} {e : Ends} (hends : l.ends = some e) (he : e.Sound) :
    l.withRouting = l := by
  obtain ⟨id, network, ends, keepalive, created, updated⟩ := l
  cases hends
  simp only [withRouting, Option.map_some, he.withRouting]

theorem validate_of_sound {l : Link} {e : Ends} (hends : l.ends = some e) (he : e.Sound) :
    l.validate = .ok () :=
  (validate_eq_ok_iff l).mpr ⟨e, hends, he.distinct⟩

/-- A merge into sound ends passes validation, and finds routing at both of them. -/
theorem merge_of_sound {l : Link} {e : Ends} (hends : l.ends = some e) (he : e.Sound)
    (p : Patch) (now : Time.Timestamp) :
    ∃ merged, l.merge p = .ok merged ∧ merged.validate = .ok () ∧
      { merged.withRouting with updated := some now } = l.patched p now := by
  have hmerged := he.mergeAll (p.peers.getD [])
  refine ⟨_, merge_of_ends hends p, validate_of_sound rfl hmerged, ?_⟩
  rw [withRouting_of_sound rfl hmerged]
  simp only [patched, hends, Option.map_some]

theorem allow_of_sound {l : Link} {e : Ends} (hends : l.ends = some e) (he : e.Sound)
    (ip : String) : l.allow ip = .ok { l with ends := some (e.map (Peer.allow ip)) } := by
  have hnone : (e.toList.find? fun p => p.routing.isNone) = none := by
    simp [Ends.toList, he.routing_first, he.routing_second]
  exact allow_of_routing hends hnone ip

end Link

end LinkRegistry
