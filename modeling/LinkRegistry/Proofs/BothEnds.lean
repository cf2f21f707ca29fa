import LinkRegistry.Proofs.AllOrNothing
import LinkRegistry.Proofs.AllowedRanges

/-!
# Allowing a range at both ends

**Input.** A link, which is changed in place, and a range, or several ranges in turn.

**Rule.** Both ends are asked for routing, the first one before the second one, and only then the
range is appended at each of them.  So a link that lacks routing at its second end only does not
get the range at its first one either.  A link with ends to which routing was given keeps it, and
takes any range from then on.

**Results.**
* `Link.allowsBoth_of_unroutable`, `Link.allowsBoth_of_routed`: one range, also as work in place.
* `Link.foldlM_allow`: ranges in turn.
* `Link.allows_both_ends`: both together.
-/

namespace LinkRegistry

theorem Routing.extended_cons (base : Option (List String)) (ip : String) (ips : List String) :
    extended base (ip :: ips) = extended (some (base.getD [] ++ [ip])) ips := by
  cases ips <;> simp [extended]

namespace Peer

/-- The peer with further ranges at the end of its list, if it has routing. -/
def extend (ips : List String) (p : Peer) : Peer :=
  { p with routing := p.routing.map fun own => Routing.extended own.allowed ips }

/-- The peer has routing and gains ranges at the end of its list, where an unset list counts as
empty.  Nothing else changes. -/
structure Gains (ips : List String) (old new : Peer) : Prop where
  node_eq : new.node = old.node
  interface_eq : new.interface = old.interface
  routing_eq : ∃ own, old.routing = some own ∧
    new.routing = some (Routing.extended own.allowed ips)

theorem extend_nil (p : Peer) : p.extend [] = p := by
  obtain ⟨node, interface, _ | own⟩ := p <;> rfl

theorem extend_allow (ip : String) (ips : List String) (p : Peer) :
    (p.allow ip).extend ips = p.extend (ip :: ips) := by
  obtain ⟨node, interface, _ | own⟩ := p
  · rfl
  · simp [allow, extend, Routing.allow, Routing.extended_cons]

theorem allow_eq_extend (ip : String) (p : Peer) : p.allow ip = p.extend [ip] := by
  rw [← extend_allow, extend_nil]

theorem gains_extend {p : Peer} (h : p.routing ≠ none) (ips : List String) :
    p.Gains ips (p.extend ips) := by
  obtain ⟨own, hown⟩ := Option.ne_none_iff_exists'.mp h
  refine ⟨rfl, rfl, own, hown, ?_⟩
  simp [extend, hown]

end Peer

namespace Link

/-- The reason not to allow a range at the end on a side. -/
def lacksRouting? (s : Side) (l : Link) : Option Fault :=
  match l.ends with
  | none => some .noEnds
  | some e =>
      if (e.peer s).routing.isNone then some (.noRouting (e.peer s).interface) else none

/-- The link with one more range at the end on a side. -/
def allowAt (ip : String) : Side → Link → Link
  | .first, l => { l with ends := l.ends.map fun e => { e with first := e.first.allow ip } }
  | .second, l => { l with ends := l.ends.map fun e => { e with second := e.second.allow ip } }

/-- Allow a range in place: ask both ends for routing, and then append it at each of them. -/
def allowInPlace (ip : String) : Work Link Unit :=
  Work.allOrNothing lacksRouting? (allowAt ip) [.first, .second]

/-- Why no range can be allowed at both ends: there are none, or the first one of them that has
no routing is at the interface. -/
inductive Unroutable (l : Link) : Fault → Prop
  | noEnds (h : l.ends = none) : Unroutable l .noEnds
  | first {e : Ends} (h : l.ends = some e) (hfirst : e.first.routing = none) :
      Unroutable l (.noRouting e.first.interface)
  | second {e : Ends} (h : l.ends = some e) (hfirst : e.first.routing ≠ none)
      (hsecond : e.second.routing = none) : Unroutable l (.noRouting e.second.interface)

/-- A range is allowed at both ends of a link, or else the link is left as it was. -/
structure AllowsBoth (l : Link) (ip : String) (result : Except Fault Link) : Prop where
  refused_iff : ∀ f, result = .error f ↔ l.Unroutable f
  kept : ∀ f, result = .error f → (allowInPlace ip).on l = (.error f, l)
  done : ∀ changed, result = .ok changed → (allowInPlace ip).on l = (.ok (), changed)
  gains : ∀ changed, result = .ok changed → ∃ e e', l.ends = some e ∧
    changed = { l with ends := some e' } ∧ ∀ s, (e.peer s).Gains [ip] (e'.peer s)

section Single

variable {l : Link} {e : Ends} {f : Fault}

/-- What both ends are asked for is what the range is refused for. -/
theorem Unroutable.findSome?_eq (h : l.Unroutable f) :
    ([.first, .second].findSome? fun s => lacksRouting? s l) = some f := by
  cases h with
  | noEnds h => simp [lacksRouting?, h]
  | first h hfirst => simp [lacksRouting?, h, Ends.peer, hfirst]
  | second h hfirst hsecond => simp [lacksRouting?, h, Ends.peer, hfirst, hsecond]

theorem allow_of_unroutable (h : l.Unroutable f) (ip : String) : l.allow ip = .error f := by
  cases h with
  | noEnds h => exact allow_of_no_ends h ip
  | first h hfirst => exact allow_of_no_routing h (by simp [Ends.toList, hfirst]) ip
  | second h hfirst hsecond =>
      exact allow_of_no_routing h (by simp [Ends.toList, hfirst, hsecond]) ip

theorem allow_of_routed (he : l.ends = some e) (hrouting : ∀ s, (e.peer s).routing ≠ none)
    (ip : String) : l.allow ip = .ok { l with ends := some (e.map (Peer.allow ip)) } := by
  have hfirst : e.first.routing ≠ none := hrouting .first
  have hsecond : e.second.routing ≠ none := hrouting .second
  exact allow_of_routing he (by simp [Ends.toList, hfirst, hsecond]) ip

theorem unroutable_or_routed (l : Link) :
    (∃ f, l.Unroutable f) ∨ ∃ e, l.ends = some e ∧ ∀ s, (e.peer s).routing ≠ none := by
  cases hends : l.ends with
  | none => exact Or.inl ⟨_, .noEnds hends⟩
  | some e =>
      by_cases hfirst : e.first.routing = none
      · exact Or.inl ⟨_, .first hends hfirst⟩
      · by_cases hsecond : e.second.routing = none
        · exact Or.inl ⟨_, .second hends hfirst hsecond⟩
        · refine Or.inr ⟨e, rfl, ?_⟩
          rintro (_ | _)
          · exact hfirst
          · exact hsecond

/-- A range at the first end does not take routing away from the second one. -/
theorem unobstructed_allowAt (ip : String) :
    Work.Unobstructed lacksRouting? (allowAt ip) [.first, .second] := by
  refine List.pairwise_pair.mpr ?_
  intro l h
  cases hends : l.ends with
  | none => simp [lacksRouting?, hends] at h
  | some e =>
      have hsecond : e.second.routing ≠ none := by
        simpa [lacksRouting?, hends, Ends.peer] using h
      simp [lacksRouting?, allowAt, hends, Ends.peer, hsecond]

theorem on_allowInPlace_of_routed (he : l.ends = some e)
    (hrouting : ∀ s, (e.peer s).routing ≠ none) (ip : String) :
    (allowInPlace ip).on l = (.ok (), { l with ends := some (e.map (Peer.allow ip)) }) := by
  have hnone : ([.first, .second].findSome? fun s => lacksRouting? s l) = none := by
    simp [lacksRouting?, he, hrouting]
  refine (Work.on_allOrNothing_of_none (unobstructed_allowAt ip) hnone).trans ?_
  simp [allowAt, he, Ends.map]

theorem allowsBoth_of_unroutable (h : l.Unroutable f) (ip : String) :
    l.AllowsBoth ip (l.allow ip) where
  refused_iff := by
    intro f'
    constructor
    · intro hf'
      rw [allow_of_unroutable h] at hf'
      cases hf'
      exact h
    · exact fun hf' => allow_of_unroutable hf' ip
  kept := by
    rw [allow_of_unroutable h]
    rintro f' ⟨⟩
    exact Work.on_allOrNothing_of_some _ h.findSome?_eq
  done := by
    rw [allow_of_unroutable h]
    rintro changed ⟨⟩
  gains := by
    rw [allow_of_unroutable h]
    rintro changed ⟨⟩

theorem allowsBoth_of_routed (he : l.ends = some e) (hrouting : ∀ s, (e.peer s).routing ≠ none)
    (ip : String) : l.AllowsBoth ip (l.allow ip) where
  refused_iff := by
    intro f
    constructor
    · intro hf
      rw [allow_of_routed he hrouting] at hf
      cases hf
    · exact fun hf => allow_of_unroutable hf ip
  kept := by
    rw [allow_of_routed he hrouting]
    rintro f ⟨⟩
  done := by
    rw [allow_of_routed he hrouting]
    rintro changed ⟨⟩
    exact on_allowInPlace_of_routed he hrouting ip
  gains := by
    rw [allow_of_routed he hrouting]
    rintro changed ⟨⟩
    refine ⟨e, _, he, rfl, ?_⟩
    intro s
    rw [Ends.peer_map, Peer.allow_eq_extend]
    exact Peer.gains_extend (hrouting s) [ip]

end Single

section Repeated

variable {e : Ends}

/-- Ends that have routing take one range after another. -/
theorem foldlM_allow (l : Link) (hrouting : ∀ s, (e.peer s).routing ≠ none) (ips : List String) :
    ips.foldlM allow { l with ends := some e } =
      .ok { l with ends := some (e.map (Peer.extend ips)) } := by
  induction ips generalizing e with
  | nil =>
      have hsame : e.map (Peer.extend []) = e := by
        simp [Ends.map, Peer.extend_nil]
      rw [hsame]
      rfl
  | cons ip ips ih =>
      have hstep : ∀ s, ((e.map (Peer.allow ip)).peer s).routing ≠ none := by
        intro s
        rw [Ends.peer_map]
        simpa [Peer.allow] using hrouting s
      have hrest := ih hstep
      have hmap : (e.map (Peer.allow ip)).map (Peer.extend ips) =
          e.map (Peer.extend (ip :: ips)) := by
        simp [Ends.map, Peer.extend_allow]
      rw [hmap] at hrest
      rw [List.foldlM_cons, allow_of_routed rfl hrouting]
      exact hrest

end Repeated

/-- A range is allowed at both ends or at none of them.  After routing was given to a link with
ends, ranges are never refused, and both lists end in all of them. -/
theorem allows_both_ends (l : Link) :
    (∀ ip, l.AllowsBoth ip (l.allow ip)) ∧
      ∀ e, l.ends = some e → ∀ ips, ∃ e',
        ips.foldlM allow l.withRouting = .ok { l with ends := some e' } ∧
          ∀ s, (e.peer s).withRouting.Gains ips (e'.peer s) := by
  constructor
  · intro ip
    rcases l.unroutable_or_routed with ⟨f, hf⟩ | ⟨e, he, hrouting⟩
    · exact allowsBoth_of_unroutable hf ip
    · exact allowsBoth_of_routed he hrouting ip
  · intro e he ips
    have hgiven : l.withRouting = { l with ends := some (e.map Peer.withRouting) } := by
      simp only [withRouting, he, Option.map_some]
    have hrouting : ∀ s, ((e.map Peer.withRouting).peer s).routing ≠ none := by
      intro s
      rw [Ends.peer_map]
      exact Option.some_ne_none _
    refine ⟨_, hgiven ▸ foldlM_allow l hrouting ips, ?_⟩
    intro s
    rw [Ends.peer_map (Peer.extend ips), ← Ends.peer_map Peer.withRouting]
    exact Peer.gains_extend (hrouting s) ips

/-- Only the second end has routing, and that has no list. -/
def trialHalf : Link :=
  ⟨"h", "", some ⟨⟨"", "i", none⟩, ⟨"n", "j", some ⟨none⟩⟩⟩, some 5, none, none⟩

theorem allows_both_ends_trial :
    trialHalf.Unroutable (.noRouting "i") ∧ trialHalf.AllowsBoth "x" (trialHalf.allow "x") ∧
      ∃ e e', trialHalf.ends = some e ∧
        ["x", "y", "x"].foldlM allow trialHalf.withRouting =
          .ok { trialHalf with ends := some e' } ∧
        ∀ s, (e.peer s).withRouting.Gains ["x", "y", "x"] (e'.peer s) := by
  have hreason : trialHalf.Unroutable _ := .first rfl rfl
  obtain ⟨hboth, hrepeated⟩ := allows_both_ends trialHalf
  obtain ⟨e', hallowed, hgains⟩ := hrepeated _ rfl ["x", "y", "x"]
  exact ⟨hreason, hboth "x", _, e', rfl, hallowed, hgains⟩

/-- In a single pass, the first end would get a range that the second one does not take. -/
example : ((Work.changeEach lacksRouting? (allowAt "x") [.second, .first]).on trialHalf).2 ≠
    trialHalf := by
  decide

end Link
end LinkRegistry
