import LinkRegistry.Proofs.WriteCount

/-!
# Ranges that are allowed stay allowed

**Input.** A key, one side of the link under it, and operations on a new registry with their
outcomes; some of them may be refused.

**Rule.** Storing the link replaces the list of each side, where a side without routing gets
an empty list.  A patch replaces the list of the side that is at an interface if it lists
peers at the interface with a list, and the last of these lists is the new one.  Allowing a
range appends it on both sides.  Nothing else touches a list.

**Results.**
* `Sound.turns`: what one operation makes of the peer on a side.
* `accumulates_after`: a list is the one that was written as a whole last, followed by all
  ranges that were allowed after that.
-/

namespace LinkRegistry

/-- One of the two sides of a link. -/
inductive Side where
  | first
  | second
  deriving DecidableEq

namespace Routing

/-- Routing with a list, after further ranges were allowed in turn. -/
def extended (base : Option (List String)) (ips : List String) : Routing :=
  ⟨if ips = [] then base else some (base.getD [] ++ ips)⟩

theorem extended_concat (base : Option (List String)) (ips : List String) (ip : String) :
    extended base (ips ++ [ip]) = (extended base ips).allow ip := by
  unfold extended allow
  rw [if_neg (List.concat_ne_nil ip ips)]
  cases ips with
  | nil => rfl
  | cons x xs => rw [if_neg (List.cons_ne_nil x xs), Option.getD_some, List.append_assoc]

end Routing

/-- The list that the peers carry for an interface: the last one that is not unset. -/
def Peer.listFor? (interface : String) (ps : List Peer) : Option (List String) :=
  ((ps.filter fun p => p.interface = interface).filterMap fun p =>
    p.routing.bind Routing.allowed).getLast?

namespace Ends

/-- The peer on a side. -/
def peer (e : Ends) : Side → Peer
  | .first => e.first
  | .second => e.second

theorem peer_map (f : Peer → Peer) (e : Ends) (s : Side) : (e.map f).peer s = f (e.peer s) := by
  cases s <;> rfl

theorem Sound.peer_routing_ne {e : Ends} (he : e.Sound) (s : Side) :
    (e.peer s).routing ≠ none := by
  cases s with
  | first => exact he.routing_first
  | second => exact he.routing_second

theorem mergeAll_peer_interface (e : Ends) (ps : List Peer) (s : Side) :
    ((e.mergeAll ps).peer s).interface = (e.peer s).interface := by
  cases s with
  | first => exact (e.mergeAll_interfaces ps).1
  | second => exact (e.mergeAll_interfaces ps).2

/-- Where the interfaces differ, each side takes up exactly the peers listed at its own. -/
theorem Sound.mergeAll_peer {e : Ends} (he : e.Sound) (ps : List Peer) (s : Side) :
    (e.mergeAll ps).peer s =
      (e.peer s).overlay (ps.filter fun p => p.interface = (e.peer s).interface) := by
  rw [mergeAll_eq_overlay, listedSecond_of_ne he.distinct]
  cases s <;> rfl

/-- A patch replaces the list of a side by the one that it carries for the interface. -/
theorem Sound.mergeAll_peer_routing {e : Ends} (he : e.Sound) (ps : List Peer) (s : Side) :
    ((e.mergeAll ps).peer s).routing =
      (e.peer s).routing.map fun own =>
        ⟨(Peer.listFor? (e.peer s).interface ps).or own.allowed⟩ := by
  obtain ⟨own, hown⟩ := Option.ne_none_iff_exists'.mp (he.peer_routing_ne s)
  rw [he.mergeAll_peer, hown]
  unfold Peer.overlay Peer.overlayRouting Peer.listFor?
  rw [hown, if_neg fun h => Option.some_ne_none own h.1, List.filterMap_filterMap]
  rfl

end Ends

namespace Operation

/-- The list, unset or not, that the operation writes as a whole on a side of the link with the
key, where the side is at an interface. -/
def replaced? (key : String) (s : Side) (interface : String) :
    Operation → Option (Option (List String))
  | .upsert l =>
      if l.id = key then
        l.ends.map fun e => ((e.peer s).routing.getD Routing.empty).allowed
      else none
  | .patch id p =>
      if id = key then (Peer.listFor? interface (p.peers.getD [])).map some else none
  | .allow _ _ | .get _ | .delete _ | .list _ | .clear => none

/-- The range that the operation allows on both sides of the link with the key. -/
def allowed? (key : String) : Operation → Option String
  | .allow id ip => if id = key then some ip else none
  | .upsert _ | .patch _ _ | .get _ | .delete _ | .list _ | .clear => none

end Operation

namespace Deed

/-- What an operation that succeeded came to, where `f` says what it is to do. -/
def done? {α : Type} (f : Operation → Option α) (d : Deed) : Option α :=
  if d.outcome.reply.isOk then f d.operation else none

theorem done?_of_none {α : Type} {f : Operation → Option α} {d : Deed}
    (h : f d.operation = none) : d.done? f = none := by
  unfold done?
  rw [h, ite_self]

theorem done?_of_error {α : Type} (f : Operation → Option α) {d : Deed} {fault : Fault}
    (h : d.outcome.reply = .error fault) : d.done? f = none := by
  unfold done?
  rw [h]
  rfl

theorem done?_of_ok {α : Type} (f : Operation → Option α) {d : Deed} {reply : Reply}
    (h : d.outcome.reply = .ok reply) : d.done? f = f d.operation := by
  unfold done?
  rw [h]
  rfl

end Deed

namespace Registry

/-- The peer on a side of the link with the key. -/
def peer? (r : Registry) (key : String) (s : Side) : Option Peer :=
  ((r.find? key).bind Link.ends).map (Ends.peer · s)

/-- What an operation makes of the peer on a side: it has a list that was written as a whole
now, or else it is at the interface where it was, possibly with one more range. -/
inductive Turns (r : Registry) (key : String) (s : Side) (d : Deed) (p : Peer) : Prop
  | renewed {base : Option (List String)}
      (hbase : d.done? (Operation.replaced? key s p.interface) = some base)
      (hp : p.routing = some ⟨base⟩)
  | kept {q : Peer} (hq : r.peer? key s = some q) (hsame : p.interface = q.interface)
      (hbase : d.done? (Operation.replaced? key s p.interface) = none)
      (hp : p.routing = q.routing.map fun own =>
        (d.done? (Operation.allowed? key)).elim own own.allow)

section Steps

variable {r : Registry} {key : String} {s : Side}

theorem peer?_eq_some_iff {p : Peer} :
    r.peer? key s = some p ↔ ∃ l e, r.find? key = some l ∧ l.ends = some e ∧ e.peer s = p := by
  unfold peer?
  constructor
  · intro h
    obtain ⟨e, he, rfl⟩ := Option.map_eq_some_iff.mp h
    obtain ⟨l, hl, hends⟩ := Option.bind_eq_some_iff.mp he
    exact ⟨l, e, hl, hends, rfl⟩
  · rintro ⟨l, e, hl, hends, rfl⟩
    rw [hl, Option.bind_some, hends, Option.map_some]

/-- Without a list or a range for the key, a side that is as it was is kept. -/
theorem turns_of_same {op : Operation} {o : Outcome}
    (hsame : o.registry.find? key = r.find? key)
    (hbase : ∀ i, (Deed.mk op o).done? (Operation.replaced? key s i) = none)
    (hips : (Deed.mk op o).done? (Operation.allowed? key) = none) {p : Peer}
    (hp : o.registry.peer? key s = some p) : r.Turns key s ⟨op, o⟩ p := by
  refine .kept ?_ rfl (hbase _) ?_
  · unfold peer? at hp ⊢
    rw [← hsame]
    exact hp
  · rw [hips]
    exact Option.map_id'.symm

theorem turns_of_other {now : Time.Timestamp} {op : Operation} {x : String × Link}
    (hx : r.Stores now op x) (hkey : key ≠ x.1) (event : Nat → Event) {p : Peer}
    (hp : (r.commit x.1 x.2 event).registry.peer? key s = some p) :
    r.Turns key s ⟨op, r.commit x.1 x.2 event⟩ p := by
  have hsame : (r.commit x.1 x.2 event).registry.find? key = r.find? key := by
    rw [find?_commit, if_neg hkey]
  refine turns_of_same hsame ?_ ?_ hp
  · intro i
    refine Deed.done?_of_none ?_
    cases op with
    | upsert l =>
        obtain ⟨-, -, rfl⟩ := hx
        exact if_neg (Ne.symm hkey)
    | patch id p =>
        obtain ⟨l, -, rfl⟩ := hx
        exact if_neg (Ne.symm hkey)
    | allow id ip => rfl
    | get _ | delete _ | list _ | clear => rfl
  · refine Deed.done?_of_none ?_
    cases op with
    | allow id ip =>
        obtain ⟨l, -, rfl⟩ := hx
        exact if_neg (Ne.symm hkey)
    | upsert _ | patch _ _ | get _ | delete _ | list _ | clear => rfl

theorem turns_of_upsert {l : Link} {e : Ends} (hends : l.ends = some e)
    (now : Time.Timestamp) (event : Nat → Event) :
    r.Turns l.id s ⟨.upsert l, r.commit l.id (r.stored now l) event⟩
      ((e.map Peer.withRouting).peer s) := by
  have hbase : ∀ i, (Operation.upsert l).replaced? l.id s i =
      some ((e.peer s).routing.getD Routing.empty).allowed := by
    intro i
    simp only [Operation.replaced?, if_pos, hends, Option.map_some]
  refine .renewed ((Deed.done?_of_ok _ rfl).trans (hbase _)) ?_
  rw [Ends.peer_map]
  rfl

theorem turns_of_patch {l : Link} {e : Ends} (hl : r.find? key = some l)
    (hends : l.ends = some e) (he : e.Sound) (now : Time.Timestamp) (p : Patch)
    (event : Nat → Event) :
    r.Turns key s ⟨.patch key p, r.commit key (l.patched p now) event⟩
      ((e.mergeAll (p.peers.getD [])).peer s) := by
  have hpeer : r.peer? key s = some (e.peer s) := peer?_eq_some_iff.mpr ⟨l, e, hl, hends, rfl⟩
  have hinterface := e.mergeAll_peer_interface (p.peers.getD []) s
  have hrouting := he.mergeAll_peer_routing (p.peers.getD []) s
  obtain ⟨own, hown⟩ := Option.ne_none_iff_exists'.mp (he.peer_routing_ne s)
  have hbase : (Operation.patch key p).replaced? key s
      ((e.mergeAll (p.peers.getD [])).peer s).interface =
        (Peer.listFor? (e.peer s).interface (p.peers.getD [])).map some := by
    rw [hinterface]
    simp only [Operation.replaced?, if_pos]
  cases hlist : Peer.listFor? (e.peer s).interface (p.peers.getD []) with
  | some ips =>
      rw [hlist] at hbase
      refine .renewed ((Deed.done?_of_ok _ rfl).trans hbase) ?_
      rw [hrouting, hown, hlist]
      rfl
  | none =>
      rw [hlist] at hbase
      refine .kept hpeer hinterface ((Deed.done?_of_ok _ rfl).trans hbase) ?_
      rw [hrouting, hown, hlist]
      rfl

theorem turns_of_allow {l : Link} {e : Ends} (hl : r.find? key = some l)
    (hends : l.ends = some e) (now : Time.Timestamp) (ip : String) (event : Nat → Event) :
    r.Turns key s ⟨.allow key ip, r.commit key (l.allowed ip now) event⟩
      ((e.map (Peer.allow ip)).peer s) := by
  have hpeer : r.peer? key s = some (e.peer s) := peer?_eq_some_iff.mpr ⟨l, e, hl, hends, rfl⟩
  have hips : (Operation.allow key ip).allowed? key = some ip := if_pos rfl
  rw [Ends.peer_map]
  refine .kept hpeer rfl rfl ?_
  rw [Deed.done?_of_ok _ rfl, hips]
  rfl

theorem Sound.turns_of_stores (hr : r.Sound) {now : Time.Timestamp} {op : Operation}
    {new : Link} (hx : r.Stores now op (key, new)) {e' : Ends} (hends' : new.ends = some e')
    (event : Nat → Event) : r.Turns key s ⟨op, r.commit key new event⟩ (e'.peer s) := by
  cases op with
  | upsert l =>
      obtain ⟨-, hvalid, hx⟩ := hx
      cases hx
      obtain ⟨e, hends, -⟩ := (Link.validate_eq_ok_iff l).mp hvalid
      obtain rfl : e.map Peer.withRouting = e' := by
        simpa [stored, Link.withRouting, hends] using hends'
      exact turns_of_upsert hends now event
  | patch id p =>
      obtain ⟨l, hl, hx⟩ := hx
      cases hx
      obtain ⟨e, hends, he⟩ := (hr.storedAs_of_find? hl).joined
      cases (Link.patched_ends hends p now).symm.trans hends'
      exact turns_of_patch hl hends he now p event
  | allow id ip =>
      obtain ⟨l, hl, hx⟩ := hx
      cases hx
      obtain ⟨e, hends, -⟩ := (hr.storedAs_of_find? hl).joined
      cases (Link.allowed_ends hends ip now).symm.trans hends'
      exact turns_of_allow hl hends now ip event
  | get _ | delete _ | list _ | clear => cases hx

/-- Every operation renews the list of a side or keeps the side, possibly with one more
range. -/
theorem Sound.turns (hr : r.Sound) {now : Time.Timestamp} {op : Operation} {o : Outcome}
    (h : r.Effect now op o) {p : Peer} (hp : o.registry.peer? key s = some p) :
    r.Turns key s ⟨op, o⟩ p := by
  cases h with
  | refused f events =>
      exact turns_of_same rfl (fun i => Deed.done?_of_error _ rfl) (Deed.done?_of_error _ rfl) hp
  | looked hop reply =>
      refine turns_of_same rfl (fun i => Deed.done?_of_none ?_) (Deed.done?_of_none ?_) hp
      · cases op <;> cases hop <;> rfl
      · cases op <;> cases hop <;> rfl
  | @stored _ x hx event =>
      by_cases hkey : key = x.1
      · subst hkey
        obtain ⟨l, e', hl, hends', rfl⟩ := peer?_eq_some_iff.mp hp
        rw [find?_commit, if_pos rfl] at hl
        cases hl
        exact hr.turns_of_stores hx hends' event
      · exact turns_of_other hx hkey event hp
  | removed ids events =>
      obtain ⟨l, e, hl, hends, rfl⟩ := peer?_eq_some_iff.mp hp
      have hsame : (r.write (r.entries.remove ids)).find? key = r.find? key := by
        have hfind := r.find?_removed ids key
        by_cases hkey : key ∈ ids
        · rw [if_pos hkey] at hfind
          cases hfind.symm.trans hl
        · rw [if_neg hkey] at hfind
          exact hfind
      exact turns_of_same hsame (fun i => Deed.done?_of_none rfl) (Deed.done?_of_none rfl) hp
  | cleared => cases hp

end Steps

/-- Routing with the list that was written as a whole last, and with all ranges that were
allowed after that. -/
def Accumulates (key : String) (s : Side) (ds : List Deed) (p : Peer) : Prop :=
  ∃ before d behind base, ds = before ++ d :: behind ∧
    d.done? (Operation.replaced? key s p.interface) = some base ∧
    (∀ x ∈ behind, x.done? (Operation.replaced? key s p.interface) = none) ∧
    p.routing =
      some (.extended base (behind.filterMap (Deed.done? (Operation.allowed? key))))

section Runs

variable {key : String} {s : Side}

theorem accumulates_renewed (ds : List Deed) {d : Deed} {p : Peer} {base : Option (List String)}
    (hbase : d.done? (Operation.replaced? key s p.interface) = some base)
    (hp : p.routing = some ⟨base⟩) : Accumulates key s (ds ++ [d]) p :=
  ⟨ds, d, [], base, rfl, hbase, fun _ hx => (nomatch hx), hp⟩

theorem Accumulates.kept {ds : List Deed} {q : Peer} (h : Accumulates key s ds q) {d : Deed}
    {p : Peer} (hsame : p.interface = q.interface)
    (hbase : d.done? (Operation.replaced? key s p.interface) = none)
    (hp : p.routing = q.routing.map fun own =>
      (d.done? (Operation.allowed? key)).elim own own.allow) :
    Accumulates key s (ds ++ [d]) p := by
  obtain ⟨before, w, behind, base, rfl, hw, hbehind, hq⟩ := h
  rw [← hsame] at hw hbehind
  refine ⟨before, w, behind ++ [d], base, List.append_assoc .., hw, ?_, ?_⟩
  · intro x hx
    rcases List.mem_append.mp hx with hx | hx
    · exact hbehind x hx
    · cases List.mem_singleton.mp hx
      exact hbase
  · rw [hp, hq, List.filterMap_append, Option.map_some]
    cases hip : d.done? (Operation.allowed? key) with
    | none =>
        rw [List.filterMap_cons_none hip, List.filterMap_nil, List.append_nil]
        rfl
    | some ip =>
        rw [List.filterMap_cons_some hip, List.filterMap_nil, Routing.extended_concat]
        rfl

theorem accumulates_of_peer? (ops : List (Time.Timestamp × Operation)) {p : Peer}
    (hp : (after ops).peer? key s = some p) : Accumulates key s (empty.history ops) p := by
  -- on the run, from its end: the last operation renews the list or goes on with the one before
  induction ops using List.reverseRecOn generalizing p with
  | nil => cases hp
  | append_singleton ops x ih =>
      rw [after_concat] at hp
      rw [history_concat]
      have hr := sound_after ops
      cases hr.turns (hr.effect x.1 x.2) hp with
      | renewed hbase hp => exact accumulates_renewed _ hbase hp
      | kept hq hsame hbase hp => exact (ih hq).kept hsame hbase hp

/-- On each side of a link that is stored after any operations, the list is the one that was
written as a whole last, followed by all ranges allowed after that.  An operation that does
neither leaves a side with its interface and its routing. -/
theorem accumulates_after (ops : List (Time.Timestamp × Operation)) {l : Link}
    (hl : (after ops).find? key = some l) :
    ∃ e, l.ends = some e ∧ ∀ s, Accumulates key s (empty.history ops) (e.peer s) ∧
      ∀ now op p, ((after ops).step now op).registry.peer? key s = some p →
        (Deed.mk op ((after ops).step now op)).done?
          (Operation.replaced? key s p.interface) = none →
        (Deed.mk op ((after ops).step now op)).done? (Operation.allowed? key) = none →
        p.interface = (e.peer s).interface ∧ p.routing = (e.peer s).routing := by
  have hr := sound_after ops
  obtain ⟨e, hends, -⟩ := (hr.storedAs_of_find? hl).joined
  refine ⟨e, hends, fun s => ?_⟩
  have hpeer : (after ops).peer? key s = some (e.peer s) :=
    peer?_eq_some_iff.mpr ⟨l, e, hl, hends, rfl⟩
  refine ⟨accumulates_of_peer? ops hpeer, ?_⟩
  intro now op p hp hbase hips
  cases hr.turns (hr.effect now op) hp with
  | renewed hnew => cases hbase.symm.trans hnew
  | kept hq hsame _ hrouting =>
      cases hpeer.symm.trans hq
      refine ⟨hsame, ?_⟩
      rw [hrouting, hips]
      exact Option.map_id'

/-- One end has the list of a patch and a range that was allowed after it, and the other one
has the range alone. -/
theorem accumulates_after_trial :
    (after trial).find? "b" = some trialResult ∧
      Accumulates "b" .first (empty.history trial) ⟨"n", "i", some ⟨some ["x", "y"]⟩⟩ ∧
      Accumulates "b" .second (empty.history trial) ⟨"", "j", some ⟨some ["y"]⟩⟩ := by
  have hfind : (after trial).find? "b" = some trialResult := by decide +kernel
  obtain ⟨e, hends, hsides⟩ := accumulates_after trial hfind
  cases hends
  exact ⟨hfind, (hsides .first).1, (hsides .second).1⟩

end Runs
end Registry
end LinkRegistry
