import LinkRegistry.Proofs.Invariant

/-!
# Listings of sound registries

**Input.** A sound registry and a filter.

**Rule.** Every question that a filter asks is answered by a link with ends, so a listing
is never refused.  It consists of the summaries of the links for which all conditions
hold, in the order of the entries.  A condition that is absent or empty holds of every link.

**Results.**
* `Filter.admits_of_ends`: the answer of a filter about a link with ends.
* `Filter.holds_iff`: the conditions of a filter, one by one.
* `Link.summary_tells`: the summary of a link, field by field.
* `Sound.summaries_eq`: the whole listing.
* `Sound.listing_ascending`: the ids of a listing ascend strictly, and none is empty.
* `Sound.mem_listing_iff`: which summaries a listing has.
* `lists_after`: the listing after any operations.
-/

namespace LinkRegistry
namespace Filter

/-- The condition does not restrict, or its value passes the test. -/
def allows (condition : Option String) (test : String → Bool) : Bool :=
  (restriction? condition).all test

/-- All conditions hold of the link. -/
def holds (f : Filter) (l : Link) : Bool :=
  allows f.idStart (startsWith l.id) && allows f.network (l.network == ·) &&
    allows f.interface (fun i => l.peers.any fun p => p.interface = i) &&
      allows f.node (fun n => l.peers.any fun p => p.node = n)

theorem admitsId_eq (f : Filter) (l : Link) :
    f.admitsId l = allows f.idStart (startsWith l.id) := by
  unfold admitsId allows
  cases restriction? f.idStart <;> rfl

theorem admitsNetwork_eq (f : Filter) (l : Link) :
    f.admitsNetwork l = allows f.network (l.network == ·) := by
  unfold admitsNetwork allows
  cases restriction? f.network <;> rfl

theorem reaches_of_ends {l : Link} {e : Ends} (hends : l.ends = some e) (i : String) :
    l.reaches i = .ok (l.peers.any fun p => p.interface = i) := by
  unfold Link.reaches Link.endsOrFault Link.peers
  rw [hends]
  change Except.ok (decide (i = e.first.interface) || decide (i = e.second.interface)) = _
  simp [Ends.toList, @eq_comm _ i]

theorem peerOnNode?_of_ends {l : Link} {e : Ends} (hends : l.ends = some e) (n : String) :
    (l.peerOnNode? n).map Option.isSome = .ok (l.peers.any fun p => p.node = n) := by
  unfold Link.peerOnNode? Link.endsOrFault Link.peers
  rw [hends]
  change Except.ok (Option.isSome (if e.first.node = n then some e.first
    else if e.second.node = n then some e.second else none)) = _
  by_cases hfirst : e.first.node = n
  · simp [Ends.toList, hfirst]
  · by_cases hsecond : e.second.node = n <;> simp [Ends.toList, hfirst, hsecond]

theorem admitsInterface_of_ends {l : Link} {e : Ends} (hends : l.ends = some e)
    (f : Filter) : f.admitsInterface l =
      .ok (allows f.interface fun i => l.peers.any fun p => p.interface = i) := by
  unfold admitsInterface allows
  cases restriction? f.interface with
  | none => rfl
  | some i => exact reaches_of_ends hends i

theorem admitsNode_of_ends {l : Link} {e : Ends} (hends : l.ends = some e) (f : Filter) :
    f.admitsNode l = .ok (allows f.node fun n => l.peers.any fun p => p.node = n) := by
  unfold admitsNode allows
  cases restriction? f.node with
  | none => rfl
  | some n => exact peerOnNode?_of_ends hends n

theorem admits_of_ends {l : Link} {e : Ends} (hends : l.ends = some e) (f : Filter) :
    f.admits l = .ok (f.holds l) := by
  unfold admits holds
  rw [admitsId_eq, admitsNetwork_eq, admitsInterface_of_ends hends, admitsNode_of_ends hends]
  cases allows f.idStart (startsWith l.id) && allows f.network (l.network == ·) with
  | false => rfl
  | true =>
      cases allows f.interface fun i => l.peers.any fun p => p.interface = i <;> rfl

/-- What a filter asks of a link.  An absent or empty value asks for nothing. -/
structure Fits (f : Filter) (l : Link) : Prop where
  idStart : ∀ s ∈ f.idStart, s ≠ "" → s.toList <+: l.id.toList
  network : ∀ n ∈ f.network, n ≠ "" → l.network = n
  interface : ∀ i ∈ f.interface, i ≠ "" →
    ∃ e, l.ends = some e ∧ (e.first.interface = i ∨ e.second.interface = i)
  node : ∀ n ∈ f.node, n ≠ "" →
    ∃ e, l.ends = some e ∧ (e.first.node = n ∨ e.second.node = n)

theorem allows_iff {condition : Option String} {test : String → Bool} :
    allows condition test = true ↔ ∀ s ∈ condition, s ≠ "" → test s = true := by
  cases condition with
  | none => simp [allows, restriction?]
  | some s => by_cases h : s = "" <;> simp [allows, restriction?, h]

theorem startsWith_iff {s start : String} :
    startsWith s start = true ↔ start.toList <+: s.toList :=
  List.isPrefixOf_iff_prefix

/-- Of a link without ends, no peer passes a test. -/
theorem any_peers_iff {l : Link} {test : Peer → Bool} :
    l.peers.any test = true ↔
      ∃ e, l.ends = some e ∧ (test e.first = true ∨ test e.second = true) := by
  cases hends : l.ends <;> simp [Link.peers, Ends.toList, hends]

theorem holds_iff (f : Filter) (l : Link) : f.holds l = true ↔ f.Fits l := by
  simp only [holds, Bool.and_eq_true, allows_iff, startsWith_iff, any_peers_iff, beq_iff_eq,
    decide_eq_true_eq]
  constructor
  · rintro ⟨⟨⟨hstart, hnetwork⟩, hinterface⟩, hnode⟩
    exact ⟨hstart, hnetwork, hinterface, hnode⟩
  · rintro ⟨hstart, hnetwork, hinterface, hnode⟩
    exact ⟨⟨⟨hstart, hnetwork⟩, hinterface⟩, hnode⟩

/-- A listing in which every link answers consists of the links for which the filter holds. -/
theorem summaries_of_ends (f : Filter) {es : Entries} (h : ∀ x ∈ es, ∃ e, x.2.ends = some e) :
    f.summaries es = .ok ((es.filter fun x => f.holds x.2).map fun x => x.2.summary) := by
  induction es with
  | nil => rfl
  | cons x rest ih =>
      obtain ⟨e, hends⟩ := h x List.mem_cons_self
      have hrest := ih fun y hy => h y (List.mem_cons_of_mem _ hy)
      unfold summaries
      rw [admits_of_ends hends, hrest]
      cases hx : f.holds x.2 <;> simp [hx] <;> rfl

end Filter

/-- What a summary tells of a link with ends: both ends in their order, their nodes and their
interfaces once more, and no traffic. -/
structure Summary.Tells (s : Summary) (l : Link) (e : Ends) : Prop where
  id_eq : s.id = l.id
  network_eq : s.network = l.network
  nodes_eq : s.nodes = [e.first.node, e.second.node]
  interfaces_eq : s.interfaces = [e.first.interface, e.second.interface]
  peers_eq : s.peers = [e.first, e.second]
  keepalive_eq : s.keepalive = l.keepalive
  bytes_eq : s.bytes = 0
  created_eq : s.created = l.created
  updated_eq : s.updated = l.updated

theorem Link.summary_tells {l : Link} {e : Ends} (hends : l.ends = some e) :
    l.summary.Tells l e := by
  have hpeers : l.peers = [e.first, e.second] := by
    unfold Link.peers
    rw [hends]
    rfl
  refine ⟨rfl, rfl, ?_, ?_, hpeers, rfl, rfl, rfl, rfl⟩
  · change l.peers.map Peer.node = _
    rw [hpeers]
    rfl
  · change l.peers.map Peer.interface = _
    rw [hpeers]
    rfl

namespace Registry

/-- The summaries of the links for which a filter holds. -/
def listing (r : Registry) (f : Filter) : List Summary :=
  (r.entries.filter fun x => f.holds x.2).map fun x => x.2.summary

theorem Sound.summaries_eq {r : Registry} (hr : r.Sound) (f : Filter) :
    f.summaries r.entries = .ok (r.listing f) := by
  refine f.summaries_of_ends fun x hx => ?_
  obtain ⟨e, hends, -⟩ := (hr.storedAs x hx).joined
  exact ⟨e, hends⟩

theorem Sound.list_eq {r : Registry} (hr : r.Sound) (f : Filter) :
    r.list f = ⟨.ok (.listed (r.listing f)), [], r⟩ := by
  unfold list
  rw [hr.summaries_eq]

theorem Sound.listing_ascending {r : Registry} (hr : r.Sound) (f : Filter) :
    (r.listing f).Pairwise fun a b => a.id < b.id := by
  refine List.pairwise_map.mpr ?_
  have hkeys := hr.ascending.filter fun x => f.holds x.2
  refine hkeys.imp_of_mem ?_
  intro a b ha hb hlt
  have hida : a.2.id = a.1 := (hr.storedAs a (List.mem_filter.mp ha).1).id_eq
  have hidb : b.2.id = b.1 := (hr.storedAs b (List.mem_filter.mp hb).1).id_eq
  change a.2.id < b.2.id
  rw [hida, hidb]
  exact hlt

theorem Sound.listing_id_ne {r : Registry} (hr : r.Sound) (f : Filter) :
    ∀ s ∈ r.listing f, s.id ≠ "" := by
  intro s hs
  obtain ⟨x, hx, rfl⟩ := List.mem_map.mp hs
  have hstored := hr.storedAs x (List.mem_filter.mp hx).1
  exact fun hempty => hstored.key_ne (hstored.id_eq ▸ hempty)

theorem Sound.mem_listing_iff {r : Registry} (hr : r.Sound) (f : Filter) (s : Summary) :
    s ∈ r.listing f ↔ ∃ l, r.find? s.id = some l ∧ f.holds l = true ∧ l.summary = s := by
  constructor
  · intro hs
    obtain ⟨⟨key, l⟩, hx, rfl⟩ := List.mem_map.mp hs
    obtain ⟨hmem, hholds⟩ := List.mem_filter.mp hx
    have hkey : l.id = key := (hr.storedAs _ hmem).id_eq
    refine ⟨l, ?_, hholds, rfl⟩
    change r.find? l.id = some l
    rw [hkey]
    exact hr.ascending.lookup_of_mem hmem
  · rintro ⟨l, hfind, hholds, hsummary⟩
    have hmem : (s.id, l) ∈ r.entries := Entries.mem_of_lookup hfind
    exact List.mem_map.mpr ⟨(s.id, l), List.mem_filter.mpr ⟨hmem, hholds⟩, hsummary⟩

theorem Sound.id_mem_listing_iff {r : Registry} (hr : r.Sound) (f : Filter) (id : String) :
    id ∈ (r.listing f).map Summary.id ↔ ∃ l, r.find? id = some l ∧ f.holds l = true := by
  constructor
  · intro hid
    obtain ⟨s, hs, rfl⟩ := List.mem_map.mp hid
    obtain ⟨l, hfind, hholds, -⟩ := (hr.mem_listing_iff f s).mp hs
    exact ⟨l, hfind, hholds⟩
  · rintro ⟨l, hfind, hholds⟩
    have hkey : l.summary.id = id := (hr.storedAs_of_find? hfind).id_eq
    have hlisted : l.summary ∈ r.listing f :=
      (hr.mem_listing_iff f l.summary).mpr ⟨l, hkey ▸ hfind, hholds, rfl⟩
    exact List.mem_map.mpr ⟨l.summary, hlisted, hkey⟩

/-- The summaries are listed in the order of their ids, by code points and none twice.  They are
those of the links that the filter asks for, each as it is stored, and tell all of it. -/
structure Lists (r : Registry) (f : Filter) (ss : List Summary) : Prop where
  ascending : ss.Pairwise fun a b => a.id < b.id
  id_mem_iff : ∀ id l, r.find? id = some l → (id ∈ ss.map Summary.id ↔ f.Fits l)
  as_stored : ∀ s ∈ ss, ∃ l e, r.find? s.id = some l ∧ l.ends = some e ∧ l.summary = s ∧
    s.Tells l e

theorem Sound.lists {r : Registry} (hr : r.Sound) (f : Filter) : r.Lists f (r.listing f) where
  ascending := hr.listing_ascending f
  id_mem_iff := by
    intro id l hfind
    rw [hr.id_mem_listing_iff, hfind]
    simp [Filter.holds_iff]
  as_stored := by
    intro s hs
    obtain ⟨l, hfind, -, rfl⟩ := (hr.mem_listing_iff f s).mp hs
    obtain ⟨e, hends, -⟩ := (hr.storedAs_of_find? hfind).joined
    exact ⟨l, e, hfind, hends, rfl, Link.summary_tells hends⟩

/-- After any operations, no listing is refused, and none changes anything. -/
theorem lists_after (ops : List (Time.Timestamp × Operation)) (now : Time.Timestamp)
    (f : Filter) :
    ∃ ss, (after ops).step now (.list f) = ⟨.ok (.listed ss), [], after ops⟩ ∧
      (after ops).Lists f ss :=
  have hr := sound_after ops
  ⟨(after ops).listing f, hr.list_eq f, hr.lists f⟩

/-- Of the links with an end at the interface, only one has an id that begins as it has to. -/
example : ((after trial).list ⟨some "i", none, some "", some "b"⟩).reply.toOption =
    some (.listed [trialResult.summary]) := by
  decide +kernel

end Registry
end LinkRegistry
