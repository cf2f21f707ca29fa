import LinkRegistry.Link.Patch

/-!
# The last present value wins

**Input.** A link with ends, and a patch that lists any number of peers.

**Rule.** Merging the listed peers in turn is the same as overlaying each end, once, with the
peers listed for it.  A peer is listed for the first end that is at its interface, and
for no end if there is none.  Of the values that the peers carry, the last one that is
present decides: a name is present unless it is empty, a list of ranges unless it is
unset, and routing without a list still counts as routing.

**Results.**
* `mergeAll_interfaces`: no listed peer moves an end.
* `mergeAll_eq_overlay`: the closed form of merging listed peers.
* `merge_eq_overlay`: the closed form of a patch.
-/

namespace LinkRegistry
namespace Peer

/-- The routing of an end after changes in turn. -/
def overlayRouting (own : Option Routing) (changes : List Routing) : Option Routing :=
  if own = none ∧ changes = [] then none
  else some ⟨(changes.filterMap Routing.allowed).getLast?.or (own.bind Routing.allowed)⟩

/-- The end after the peers that are listed for it. -/
def overlay (own : Peer) (ps : List Peer) : Peer where
  node := ((ps.map Peer.node).filter (· ≠ "")).getLastD own.node
  interface := own.interface
  routing := overlayRouting own.routing (ps.filterMap Peer.routing)

theorem overlayRouting_nil (own : Option Routing) : overlayRouting own [] = own := by
  cases own <;> simp [overlayRouting]

theorem overlayRouting_cons (own : Option Routing) (r : Routing) (rs : List Routing) :
    overlayRouting own (r :: rs) = overlayRouting (mergeRouting own (some r)) rs := by
  obtain ⟨ips⟩ := r
  cases own with
  | none => cases ips <;> simp [overlayRouting, mergeRouting, List.getLast?_cons]
  | some own =>
      cases ips <;>
        simp [overlayRouting, mergeRouting, Routing.merge, List.getLast?_cons]

theorem overlay_nil (own : Peer) : own.overlay [] = own := by
  simp [overlay, overlayRouting_nil]

@[simp] theorem merge_interface_of_eq {own p : Peer} (h : own.interface = p.interface) :
    (own.merge p).interface = own.interface := by
  by_cases hempty : p.interface = "" <;> simp [merge, nameOr, hempty, h]

theorem overlay_cons {own p : Peer} (h : own.interface = p.interface) (ps : List Peer) :
    own.overlay (p :: ps) = (own.merge p).overlay ps := by
  have hnode : (own.overlay (p :: ps)).node = ((own.merge p).overlay ps).node := by
    by_cases hempty : p.node = ""
    · simp [overlay, merge, nameOr, hempty]
    · simp [overlay, merge, nameOr, hempty, List.getLast?_cons]
  have hrouting : (own.overlay (p :: ps)).routing = ((own.merge p).overlay ps).routing := by
    cases hp : p.routing with
    | none => simp [overlay, merge, mergeRouting, hp]
    | some r => simp [overlay, merge, hp, overlayRouting_cons]
  have hinterface : (own.overlay (p :: ps)).interface = ((own.merge p).overlay ps).interface :=
    (merge_interface_of_eq h).symm
  exact Peer.mk.injEq .. ▸ ⟨hnode, hinterface, hrouting⟩

theorem overlay_routing_ne_none {own : Peer} (h : own.routing ≠ none) (ps : List Peer) :
    (own.overlay ps).routing ≠ none := by
  simp [overlay, overlayRouting, h]

end Peer

namespace Ends

/-- Of the listed peers, those for the first end. -/
def listedFirst (e : Ends) (ps : List Peer) : List Peer :=
  ps.filter fun p => p.interface = e.first.interface

/-- Of the listed peers, those for the second end: the first end takes precedence. -/
def listedSecond (e : Ends) (ps : List Peer) : List Peer :=
  ps.filter fun p => p.interface = e.second.interface ∧ p.interface ≠ e.first.interface

/-- Where the ends are at different interfaces, none of them takes precedence. -/
theorem listedSecond_of_ne {e : Ends} (h : e.first.interface ≠ e.second.interface)
    (ps : List Peer) :
    e.listedSecond ps = ps.filter fun p => p.interface = e.second.interface := by
  refine List.filter_congr fun p _ => ?_
  by_cases hp : p.interface = e.second.interface
  · have hne : p.interface ≠ e.first.interface := fun hfirst => h (hfirst.symm.trans hp)
    rw [decide_eq_true ⟨hp, hne⟩, decide_eq_true hp]
  · rw [decide_eq_false fun hboth => hp hboth.1, decide_eq_false hp]

theorem mergeEntry_interfaces (e : Ends) (p : Peer) :
    (e.mergeEntry p).first.interface = e.first.interface ∧
      (e.mergeEntry p).second.interface = e.second.interface := by
  unfold mergeEntry
  split
  · rename_i hfirst
    exact ⟨Peer.merge_interface_of_eq hfirst, rfl⟩
  · split
    · rename_i hsecond
      exact ⟨rfl, Peer.merge_interface_of_eq hsecond⟩
    · exact ⟨rfl, rfl⟩

theorem mergeAll_interfaces (e : Ends) (ps : List Peer) :
    (e.mergeAll ps).first.interface = e.first.interface ∧
      (e.mergeAll ps).second.interface = e.second.interface := by
  induction ps generalizing e with
  | nil => exact ⟨rfl, rfl⟩
  | cons p ps ih =>
      obtain ⟨hfirst, hsecond⟩ := mergeEntry_interfaces e p
      obtain ⟨ihfirst, ihsecond⟩ := ih (e.mergeEntry p)
      exact ⟨ihfirst.trans hfirst, ihsecond.trans hsecond⟩

theorem listedFirst_mergeEntry (e : Ends) (p : Peer) (ps : List Peer) :
    (e.mergeEntry p).listedFirst ps = e.listedFirst ps := by
  unfold listedFirst
  rw [(mergeEntry_interfaces e p).1]

theorem listedSecond_mergeEntry (e : Ends) (p : Peer) (ps : List Peer) :
    (e.mergeEntry p).listedSecond ps = e.listedSecond ps := by
  unfold listedSecond
  rw [(mergeEntry_interfaces e p).1, (mergeEntry_interfaces e p).2]

theorem mergeAll_eq_overlay (e : Ends) (ps : List Peer) :
    e.mergeAll ps =
      ⟨e.first.overlay (e.listedFirst ps), e.second.overlay (e.listedSecond ps)⟩ := by
  induction ps generalizing e with
  | nil => simp [mergeAll, listedFirst, listedSecond, Peer.overlay_nil]
  | cons p ps ih =>
      have hstep : e.mergeAll (p :: ps) = (e.mergeEntry p).mergeAll ps := rfl
      -- no end moves, so the rest is listed for the same ends after this merge as before
      rw [hstep, ih, listedFirst_mergeEntry, listedSecond_mergeEntry]
      by_cases hfirst : e.first.interface = p.interface
      · have hlisted : e.listedFirst (p :: ps) = p :: e.listedFirst ps := by
          simp [listedFirst, hfirst]
        have hother : e.listedSecond (p :: ps) = e.listedSecond ps := by
          simp [listedSecond, hfirst]
        rw [hlisted, hother, Peer.overlay_cons hfirst, mergeEntry, if_pos hfirst]
      · have hother : e.listedFirst (p :: ps) = e.listedFirst ps := by
          simp [listedFirst, Ne.symm hfirst]
        by_cases hsecond : e.second.interface = p.interface
        · have hlisted : e.listedSecond (p :: ps) = p :: e.listedSecond ps := by
            simp [listedSecond, hsecond, Ne.symm hfirst]
          rw [hlisted, hother, Peer.overlay_cons hsecond, mergeEntry, if_neg hfirst,
            if_pos hsecond]
        · have hdropped : e.listedSecond (p :: ps) = e.listedSecond ps := by
            simp [listedSecond, Ne.symm hsecond]
          rw [hdropped, hother, mergeEntry, if_neg hfirst, if_neg hsecond]

end Ends

namespace Link

theorem merge_of_ends {l : Link} {e : Ends} (he : l.ends = some e) (p : Patch) :
    l.merge p =
      .ok { l with
        ends := some (e.mergeAll (p.peers.getD []))
        keepalive := p.keepalive.or l.keepalive } := by
  unfold merge
  rw [he]
  cases p.peers <;> rfl

/-- A patch of a link with ends succeeds, and the last present values win. -/
theorem merge_eq_overlay {l : Link} {e : Ends} (he : l.ends = some e) (p : Patch) :
    l.merge p =
      .ok { l with
        ends := some
          ⟨e.first.overlay (e.listedFirst (p.peers.getD [])),
            e.second.overlay (e.listedSecond (p.peers.getD []))⟩
        keepalive := p.keepalive.or l.keepalive } := by
  rw [merge_of_ends he, Ends.mergeAll_eq_overlay]

/-- Two lists, one name and an empty name for one end, an empty list for the other end, and
a peer that is listed for no end. -/
theorem merge_eq_overlay_repeated :
    Link.merge ⟨"l", "net", some ⟨⟨"m", "i", none⟩, ⟨"n", "j", some ⟨some ["x"]⟩⟩⟩, none, none, none⟩
        ⟨some [⟨"o", "i", some ⟨some ["y"]⟩⟩, ⟨"q", "k", some ⟨some []⟩⟩,
          ⟨"", "i", some ⟨some ["z"]⟩⟩, ⟨"", "j", some ⟨some []⟩⟩, ⟨"", "i", some ⟨none⟩⟩],
          some 25⟩ =
      .ok ⟨"l", "net", some ⟨⟨"o", "i", some ⟨some ["z"]⟩⟩, ⟨"n", "j", some ⟨some []⟩⟩⟩, some 25,
        none, none⟩ :=
  (merge_eq_overlay rfl _).trans (congrArg Except.ok (by decide))

end Link
end LinkRegistry
