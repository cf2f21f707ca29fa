import LinkRegistry.Proofs.Interchange
import LinkRegistry.Proofs.LinkPaths

/-!
# Writing back what was read

**Input.** A service whose default interval is not negative, and any requests to it at times
with offsets of whole minutes; then a stored link is fetched, and the answer is sent back.

**Rule.** Every stored link has a wire form that says all of it: its times have offsets of
whole minutes, whether they come from messages or from the clock, and where there is a default
interval it has one.  Sent back as a whole link or as a patch, it replaces itself, and what
changes is the time of change.  A patch is sent to the path of the link, so it does not reach
a link whose id has a slash.

**Results.**
* `Restorable.handle`: what makes stored links come back is kept by every request.
* `Restorable.renews_store`, `Restorable.renews_patch`: the two ways to write a link back.
* `renews_after`: both of them, from the JSON value of a request to the registry.
* `not_renewed_with_slash`: a link that cannot be sent back as a patch.
-/

namespace LinkRegistry

/-- The link has the default interval unless it has its own, and its times are as messages
have them. -/
structure Link.Settled (interval : Option Int) (l : Link) : Prop where
  keepalive_eq : l.keepalive.or interval = l.keepalive
  times : l.WholeMinutes

section Links

variable {l : Link} {interval : Option Int} {now : Time.Timestamp}

theorem Link.WholeMinutes.renewed (h : l.WholeMinutes) (hnow : now.WholeMinutes) :
    (l.renewed now).WholeMinutes where
  created := h.created
  updated := by
    rintro t ⟨⟩
    exact hnow

theorem Link.Settled.patched (h : l.Settled interval) (hnow : now.WholeMinutes) (p : Patch) :
    (l.patched p now).Settled interval where
  keepalive_eq := by
    change (p.keepalive.or l.keepalive).or interval = p.keepalive.or l.keepalive
    rw [Option.or_assoc, h.keepalive_eq]
  times := ⟨h.times.created, (h.times.renewed hnow).updated⟩

theorem Link.Settled.allowed (h : l.Settled interval) (hnow : now.WholeMinutes) (ip : String) :
    (l.allowed ip now).Settled interval :=
  ⟨h.keepalive_eq, h.times.created, (h.times.renewed hnow).updated⟩

theorem Registry.settled_stored {r : Registry} (hr : ∀ x ∈ r.entries, x.2.Settled interval)
    (h : l.Settled interval) (hnow : now.WholeMinutes) : (r.stored now l).Settled interval := by
  refine ⟨h.keepalive_eq, ?_, (h.times.renewed hnow).updated⟩
  change ∀ t, r.creationTime l now = some t → t.WholeMinutes
  unfold creationTime
  split
  · rename_i old hold
    exact (hr _ (Entries.mem_of_lookup hold)).times.created
  · rintro t ⟨⟩
    cases hcreated : l.created with
    | none => exact hnow
    | some t => exact h.times.created t hcreated

end Links

namespace Wire.LinkBody

variable {b : LinkBody} {l : Link} {j : Json}

theorem wholeMinutes_of_optional {name : String} {o : Option Time.Timestamp}
    (h : optional name none (nullable time) j = .ok o) : ∀ t, o = some t → t.WholeMinutes := by
  rintro t rfl
  rcases optional_eq_ok_iff.mp h with ⟨-, hnone⟩ | ⟨v, -, hv⟩
  · cases hnone
  · exact wholeMinutes_of_time (read_of_nullable hv)

/-- A link that comes in a message has times as messages have them. -/
theorem wholeMinutes_of_read (h : read j = .ok b) (hl : b.toLink = .ok l) : l.WholeMinutes := by
  obtain ⟨-, -, -, -, -, hcreated, hupdated⟩ := read_eq_ok_iff.mp h
  have hdescribes := toLink_eq_ok_iff.mp hl
  constructor
  · rw [hdescribes.created]
    exact wholeMinutes_of_optional hcreated
  · rw [hdescribes.updated]
    exact wholeMinutes_of_optional hupdated

/-- The printed body of a link is read as that body. -/
theorem Describes.read_write (h : b.Describes l) (ht : l.WholeMinutes) :
    read b.write = .ok b :=
  LinkBody.stable l.toRecord b (h.read_toRecord ht)

end Wire.LinkBody

namespace Service

open Wire

namespace Request

variable {r : Request} {α : Type} {read : Json → Reading α}

theorem readBody_eq_ok_iff {a : α} :
    r.readBody read = .ok a ↔ ∃ j, r.body = some j ∧ read j = .ok a := by
  unfold readBody
  rw [Reading.inside_eq_ok_iff]
  cases r.body with
  | none => simp [Reading.fail]
  | some j => simp

/-- A link is stored only if it was read from some JSON value. -/
theorem exists_of_demand_store {a : Action} {b : LinkBody} (h : r.demand a = .ok (.store b)) :
    ∃ j, LinkBody.read j = .ok b := by
  obtain rfl : Action.upsert = a := action_of_demand h
  obtain ⟨u, hu, heq⟩ := Reading.exists_of_map_eq_ok h
  cases heq
  obtain ⟨j, -, hread⟩ := readBody_eq_ok_iff.mp hu
  obtain ⟨-, hlink, -⟩ := UpsertRequest.read_eq_ok_iff.mp hread
  obtain ⟨v, -, hv⟩ := required_eq_ok_iff.mp hlink
  exact ⟨v, hv⟩

theorem demand_upsert {b : LinkBody} {j : Json}
    (hbody : r.body = some (.object [("connection", j)])) (hj : LinkBody.read j = .ok b) :
    r.demand .upsert = .ok (.store b) := by
  have hread : UpsertRequest.read (.object [("connection", j)]) = .ok ⟨b, {}⟩ :=
    UpsertRequest.read_eq_ok_iff.mpr ⟨⟨_, rfl⟩, required_eq_ok_iff.mpr ⟨j, rfl, hj⟩, rfl⟩
  have hu := readBody_eq_ok_iff.mpr ⟨_, hbody, hread⟩
  unfold demand
  simp only [hu]
  rfl

theorem demand_patch {b : LinkBody} {j : Json} (hbody : r.body = some j)
    (hj : LinkBody.read j = .ok b) (key : String) :
    r.demand (.patch key) = .ok (.patch key b) := by
  have hb := readBody_eq_ok_iff.mpr ⟨j, hbody, hj⟩
  unfold demand
  simp only [hb]
  rfl

end Request

/-- The JSON value of the link in an answer. -/
def Response.linkJson? (x : Response) : Option Json :=
  x.body?.bind (Json.field? "connection")

/-- The link under the key is written once more, and nothing but its time of change is new. -/
structure Reaction.Renews (x : Reaction) (s : State) (now : Time.Timestamp) (key : String)
    (l : Link) : Prop where
  status_eq : x.response.status = 200
  renewed : x.state.registry.find? key = some (l.renewed now)
  index_eq : x.state.registry.index = s.registry.index + 1
  others : ∀ k, k ≠ key → x.state.registry.find? k = s.registry.find? k

namespace State

/-- All stored links are sound, have a wire form and are settled, and the default interval is
not negative. -/
structure Restorable (s : State) : Prop where
  registry : s.registry.Sound
  presentable : s.registry.Presentable
  settled : ∀ x ∈ s.registry.entries, x.2.Settled s.defaultKeepalive
  interval : ∀ k ∈ s.defaultKeepalive, 0 ≤ k

section Keeping

variable {s : State} {now : Time.Timestamp}

theorem Restorable.settled_of_find (hs : s.Restorable) {key : String} {l : Link}
    (hfind : s.registry.find? key = some l) : l.Settled s.defaultKeepalive :=
  hs.settled _ (Entries.mem_of_lookup hfind)

theorem settled_complete {b : LinkBody} {l : Link} {j : Json} (hj : LinkBody.read j = .ok b)
    (hl : b.toLink = .ok l) (s : State) (hnow : now.WholeMinutes) :
    (s.complete now l).1.Settled s.defaultKeepalive := by
  have htimes := LinkBody.wholeMinutes_of_read hj hl
  refine ⟨?_, ?_, ?_⟩
  · rw [complete_keepalive, Option.or_assoc, Option.or_self]
  · unfold complete
    split
    · -- a link that gets a fresh id is created now
      rintro t ⟨⟩
      exact hnow
    · exact htimes.created
  · unfold complete
    split
    · exact htimes.updated
    · exact htimes.updated

/-- What a request stores is settled. -/
theorem Restorable.settled_of_stores (hs : s.Restorable) (hnow : now.WholeMinutes) {r : Request}
    {a : Action} {d : Demand} {o : Order} (hd : r.demand a = .ok d)
    (ho : s.orderFor now d = .ok o) {x : String × Link}
    (hx : s.registry.Stores now o.operation x) : x.2.Settled s.defaultKeepalive := by
  cases d with
  | store b =>
      obtain ⟨j, hj⟩ := Request.exists_of_demand_store hd
      obtain ⟨l, hlink, rfl⟩ := exists_of_orderFor_store ho
      obtain ⟨-, -, rfl⟩ := hx
      exact Registry.settled_stored hs.settled (settled_complete hj hlink s hnow) hnow
  | patch id b =>
      cases ho
      obtain ⟨l, hl, rfl⟩ := hx
      exact (hs.settled_of_find hl).patched hnow b.toPatch
  | allow id ip =>
      cases ho
      obtain ⟨l, hl, rfl⟩ := hx
      exact (hs.settled_of_find hl).allowed hnow ip
  | list _ | delete _ | fetch _ =>
      cases ho
      cases hx

theorem Restorable.answerable (hs : s.Restorable) : s.Answerable :=
  ⟨hs.registry, hs.presentable, hs.interval⟩

theorem Restorable.handle (hs : s.Restorable) (hnow : now.WholeMinutes) (r : Request) :
    (s.handle now r).state.Restorable := by
  refine handle_keeps hs ?_
  intro a d o _ hd ho
  have hlater : (s.execute now o).state.Answerable := hs.answerable.execute ho
  refine ⟨hlater.registry, hlater.presentable, ?_, hs.interval⟩
  intro x hx
  rcases (hs.registry.effect now o.operation).mem hx with hx | hstores
  · exact hs.settled x hx
  · exact hs.settled_of_stores hnow hd ho hstores

theorem restorable_start (ids : IdSource) {interval : Option Int}
    (hinterval : ∀ k ∈ interval, 0 ≤ k) : (start ids interval).Restorable where
  registry := Registry.sound_empty
  presentable := fun _ hx => nomatch hx
  settled := fun _ hx => nomatch hx
  interval := hinterval

theorem Restorable.serve (hs : s.Restorable) {rs : List (Time.Timestamp × Request)}
    (hrs : ∀ x ∈ rs, x.1.WholeMinutes) : (s.serve rs).2.Restorable :=
  serve_keeps_at (fun _ _ r hnow ht => ht.handle hnow r) hs hrs

end Keeping

section Renewing

variable {s : State} {key : String} {l : Link} {b : LinkBody}

theorem renews_of_commit (hl : l.HasWireForm) {now : Time.Timestamp} {o : Order}
    {event : Nat → Event}
    (h : s.registry.step now o.operation = s.registry.commit key (l.renewed now) event) :
    (s.execute now o).Renews s now key l := by
  obtain ⟨hresponse, hregistry⟩ := execute_of_commit h
  have hrenewed : (l.renewed now).HasWireForm := hl
  obtain ⟨b, hb⟩ := Response.ofLink_of_hasWireForm hrenewed (s.registry.index + 1)
  refine ⟨?_, ?_, ?_, ?_⟩
  · rw [hresponse, hb]
    rfl
  · rw [hregistry]
    exact (Entries.lookup_store _ _ _ _).trans (if_pos rfl)
  · rw [hregistry]
    rfl
  · intro k hk
    rw [hregistry]
    exact (Entries.lookup_store _ _ _ _).trans (if_neg hk)

/-- A link that needs neither an id nor an interval is completed as it is. -/
theorem complete_of_settled (hid : l.id ≠ "") (hl : l.Settled s.defaultKeepalive)
    (now : Time.Timestamp) : s.complete now l = (l, s.ids) := by
  unfold complete
  rw [if_neg hid]
  dsimp only
  rw [hl.keepalive_eq]

theorem Restorable.renews_store (hs : s.Restorable) (hfind : s.registry.find? key = some l)
    (hb : b.Describes l) (now : Time.Timestamp) :
    (s.react now (.store b)).Renews s now key l := by
  have hstored := hs.registry.storedAs_of_find? hfind
  obtain ⟨e, hends, he⟩ := hstored.joined
  have hid : l.id ≠ "" := by
    rw [hstored.id_eq]
    exact hstored.key_ne
  have hsettled := hs.settled_of_find hfind
  -- nothing is filled in: not the id, not the interval, and routing is there at both ends
  have hcreated : s.registry.creationTime l now = l.created := by
    unfold Registry.creationTime
    rw [hstored.id_eq, hfind]
  have hrenewed : s.registry.stored now l = l.renewed now := by
    unfold Registry.stored Link.renewed
    rw [hcreated, Link.withRouting_of_sound hends he]
  obtain ⟨event, hstep⟩ :=
    Registry.upsert_of_valid (r := s.registry) hid (Link.validate_of_sound hends he) now
  rw [hrenewed, hstored.id_eq] at hstep
  rw [react_store_of_link s now (LinkBody.toLink_eq_ok_iff.mpr hb),
    complete_of_settled hid hsettled now]
  exact renews_of_commit (hs.presentable.hasWireForm hfind) hstep

theorem Restorable.renews_patch (hs : s.Restorable) (hfind : s.registry.find? key = some l)
    (hb : b.Describes l) (now : Time.Timestamp) :
    (s.react now (.patch key b)).Renews s now key l := by
  obtain ⟨e, hends, he⟩ := (hs.registry.storedAs_of_find? hfind).joined
  have hself : l.patched b.toPatch now = l.renewed now := by
    rw [hb.toPatch_eq, Link.patched_ofLink hends he now]
  have hstep := hs.registry.patch_eq hfind now b.toPatch
  rw [hself] at hstep
  exact renews_of_commit (o := s.plainOrder (.patch key b.toPatch))
    (hs.presentable.hasWireForm hfind) hstep

/-- The link under the key is answered with the JSON value, and the value can be sent back:
always as a link to store, and as a patch to the path of the link if that path leads to it. -/
structure ComesBack (s : State) (key : String) (l : Link) (j : Json) : Prop where
  answered : ∀ now, ∃ a, s.react now (.fetch key) = ⟨.link a, [], s⟩ ∧
    (Response.link a).linkJson? = some j
  fetched_at_path : '/' ∉ key.toList → ∀ now query body,
    s.handle now ⟨"GET", linkPath key, query, body⟩ = s.react now (.fetch key)
  stored : ∀ now query,
    (s.handle now ⟨"POST", "/connections", query, some (.object [("connection", j)])⟩).Renews
      s now key l
  patched_iff : ∀ now query,
    (s.handle now ⟨"PATCH", linkPath key, query, some j⟩).Renews s now key l ↔
      '/' ∉ key.toList
  /-- Otherwise nothing happens. -/
  ignored : '/' ∈ key.toList → ∀ now query, ∃ response,
    s.handle now ⟨"PATCH", linkPath key, query, some j⟩ = ⟨response, [], s⟩ ∧
      (response.status = 307 ∨ response.status = 404 ∨ response.status = 405)

theorem Restorable.handle_post_renews (hs : s.Restorable)
    (hfind : s.registry.find? key = some l) (hb : b.Describes l) {j : Json}
    (hread : LinkBody.read j = .ok b) (now : Time.Timestamp) (query : List (String × String)) :
    (s.handle now ⟨"POST", "/connections", query, some (.object [("connection", j)])⟩).Renews
      s now key l := by
  let r : Request := ⟨"POST", "/connections", query, some (.object [("connection", j)])⟩
  have haction : r.action? = some .upsert := lookup_collection
  have hdemand : r.demand .upsert = .ok (.store b) := Request.demand_upsert rfl hread
  rw [handle_of_demand s now haction hdemand]
  exact hs.renews_store hfind hb now

theorem Restorable.handle_patch_renews (hs : s.Restorable)
    (hfind : s.registry.find? key = some l) (hb : b.Describes l) {j : Json}
    (hread : LinkBody.read j = .ok b) (hslash : '/' ∉ key.toList) (now : Time.Timestamp)
    (query : List (String × String)) :
    (s.handle now ⟨"PATCH", linkPath key, query, some j⟩).Renews s now key l := by
  let r : Request := ⟨"PATCH", linkPath key, query, some j⟩
  have hkey : key ≠ "" := (hs.registry.storedAs_of_find? hfind).key_ne
  have haction : r.action? = some (.patch key) := (lookup_linkPath hkey hslash).2
  have hdemand : r.demand (.patch key) = .ok (.patch key b) :=
    Request.demand_patch rfl hread key
  rw [handle_of_demand s now haction hdemand]
  exact hs.renews_patch hfind hb now

theorem Restorable.comesBack (hs : s.Restorable) (hfind : s.registry.find? key = some l) :
    ∃ j, s.ComesBack key l j := by
  have hkey : key ≠ "" := (hs.registry.storedAs_of_find? hfind).key_ne
  obtain ⟨b, hb⟩ := LinkBody.exists_ofLink (hs.presentable.hasWireForm hfind)
  have hdescribes := LinkBody.ofLink_eq_ok_iff.mp hb
  -- the JSON value is the printed body, and is read as that body wherever it is sent to
  have hread : LinkBody.read b.write = .ok b :=
    hdescribes.read_write (hs.settled_of_find hfind).times
  have hmethod : "PATCH" ≠ "POST" := by decide
  refine ⟨b.write, ?_, ?_, hs.handle_post_renews hfind hdescribes hread, ?_, ?_⟩
  · intro now
    rw [react_fetch_of_known hfind, Response.ofLink_eq_link hb]
    exact ⟨_, rfl, rfl⟩
  · intro hslash now query body
    exact s.handle_of_fetch now (lookup_linkPath hkey hslash).1 query body
  · intro now query
    refine ⟨?_, fun hslash => hs.handle_patch_renews hfind hdescribes hread hslash now query⟩
    intro hrenews hslash
    have hok := hrenews.status_eq
    rw [s.handle_linkPath_of_slash now hslash hmethod] at hok
    exact Response.status_unrouted_ne (linkPath key) hok
  · intro hslash now query
    exact ⟨_, s.handle_linkPath_of_slash now hslash hmethod query _,
      Response.status_unrouted (linkPath key)⟩

/-- Whatever was asked of the service before, the JSON value that a stored link is answered
with can be sent back: the answer has status 200, and only the time of change is new.  As a
patch it is sent to the path of the link, so the id of the link must not have a slash. -/
theorem renews_after (ids : IdSource) {interval : Option Int}
    (hinterval : ∀ k ∈ interval, 0 ≤ k) {rs : List (Time.Timestamp × Request)}
    (hrs : ∀ x ∈ rs, x.1.WholeMinutes) {key : String} {l : Link}
    (hfind : ((start ids interval).serve rs).2.registry.find? key = some l) :
    ∃ j, ((start ids interval).serve rs).2.ComesBack key l j :=
  ((restorable_start ids hinterval).serve hrs).comesBack hfind

/-- A link is stored without an interval, and gets one of zero afterwards. -/
def trialRequests : List (Time.Timestamp × Request) :=
  [(Registry.trialTime, .storing "c" "i" "j"),
    (Registry.trialTime, ⟨"PATCH", "/connections/c", [],
      some (.object [("persistent_keepalive", .int 0)])⟩)]

/-- The link that the requests leave. -/
def trialKept : Link :=
  ⟨"c", "", some ⟨⟨"", "i", some ⟨some []⟩⟩, ⟨"", "j", some ⟨some []⟩⟩⟩, some 0,
    some Registry.trialTime, some Registry.trialTime⟩

/-- The link is fetched at its path, and its JSON value is sent back in both ways. -/
theorem renews_after_trial :
    let s := ((start (.numbered "conn" 1) (some 25)).serve trialRequests).2
    let now := Registry.trialTime
    (∀ k ∈ some (25 : Int), 0 ≤ k) ∧ (∀ x ∈ trialRequests, x.1.WholeMinutes) ∧
      s.registry.find? "c" = some trialKept ∧
      ∃ j, (s.handle now ⟨"GET", "/connections/c", [], none⟩).response.linkJson? = some j ∧
        (s.handle now ⟨"POST", "/connections", [], some (.object [("connection", j)])⟩).Renews
          s now "c" trialKept ∧
        (s.handle now ⟨"PATCH", "/connections/c", [], some j⟩).Renews s now "c" trialKept := by
  intro s now
  have hinterval : ∀ k ∈ some (25 : Int), 0 ≤ k := by decide
  have htime : Registry.trialTime.WholeMinutes := by
    rintro o ⟨⟩
    exact Time.wholeMinutes_utc
  have htimes : ∀ x ∈ trialRequests, x.1.WholeMinutes := by
    simp [trialRequests, htime]
  have hfind : s.registry.find? "c" = some trialKept := by decide +kernel
  have hpath : linkPath "c" = "/connections/c" := by decide +kernel
  have hslash : '/' ∉ "c".toList := by decide
  obtain ⟨j, hback⟩ := renews_after (.numbered "conn" 1) hinterval htimes hfind
  refine ⟨hinterval, htimes, hfind, j, ?_, hback.stored now [], ?_⟩
  · obtain ⟨a, hfetch, hjson⟩ := hback.answered now
    rw [← hpath, hback.fetched_at_path hslash, hfetch]
    exact hjson
  · rw [← hpath]
    exact (hback.patched_iff now []).mpr hslash

/-- The link is stored and answered with a JSON value, but the value sent to its path as a
patch is answered with status 404, and nothing is written. -/
theorem not_renewed_with_slash :
    let s := ((start (.numbered "conn" 1) none).serve
      [(Registry.trialTime, .storing "a/b" "i" "j")]).2
    let now := Registry.trialTime
    ∃ l j, s.registry.find? "a/b" = some l ∧
      (s.react now (.fetch "a/b")).response.linkJson? = some j ∧
      (s.handle now ⟨"PATCH", linkPath "a/b", [], some j⟩).response.status = 404 ∧
      ¬ (s.handle now ⟨"PATCH", linkPath "a/b", [], some j⟩).Renews s now "a/b" l := by
  intro s now
  have hknown : (s.registry.find? "a/b").isSome = true := by decide +kernel
  have hanswered : (s.react now (.fetch "a/b")).response.linkJson?.isSome = true := by
    decide +kernel
  obtain ⟨l, hl⟩ := Option.isSome_iff_exists.mp hknown
  obtain ⟨j, hj⟩ := Option.isSome_iff_exists.mp hanswered
  have hslash : '/' ∈ "a/b".toList := by decide
  have hmethod : "PATCH" ≠ "POST" := by decide
  have hstatus : (s.handle now ⟨"PATCH", linkPath "a/b", [], some j⟩).response.status = 404 := by
    rw [s.handle_linkPath_of_slash now hslash hmethod]
    decide +kernel
  refine ⟨l, j, hl, hj, hstatus, ?_⟩
  intro hrenews
  cases hstatus.symm.trans hrenews.status_eq

end Renewing
end State
end Service
end LinkRegistry
