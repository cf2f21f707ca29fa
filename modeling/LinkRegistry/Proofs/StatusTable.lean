import LinkRegistry.Proofs.Demand
import LinkRegistry.Proofs.Paging

/-!
# Which status answers a request

**Input.** A service that never draws an empty id and has no negative default interval, any
requests to it, and one more.  What cannot be parsed is refused before it gets here.

**Rule.** A request with problems is answered with 422, or fails if a problem would have to
quote a number that is not finite.  Otherwise a link that does not join two interfaces is
answered with 400, an id that is not stored with 404, and everything else with 200.  No link
without a wire form is ever stored, so no answer breaks.  Only a request that is answered
with 200 changes the registry, and if it is a write, then its answer notes the next index.

**Results.**
* `Sound.settles`: the reaction to each demand.
* `Sound.handle`, `Sound.serve`: what makes a service sound is kept by requests.
* `handle_follows_table`: the status of every request, and what goes with it.
* `fails_on_infinite_field`: a request with problems that is not answered with 422.
-/

namespace LinkRegistry

namespace IdSource

/-- The source after that many draws. -/
def rest (ids : IdSource) : Nat → IdSource
  | 0 => ids
  | n + 1 => ids.draw.2.rest n

/-- No draw ever yields an empty id. -/
def NeverBlank (ids : IdSource) : Prop :=
  ∀ n, (ids.rest n).draw.1 ≠ ""

theorem NeverBlank.draw {ids : IdSource} (h : ids.NeverBlank) : ids.draw.2.NeverBlank :=
  fun n => h (n + 1)

theorem numberedId_ne (stem : String) (n : Int) : numberedId stem n ≠ "" := by
  intro h
  have hlist := congrArg String.toList h
  simp [numberedId, String.toList_append] at hlist

theorem neverBlank_numbered (stem : String) (n : Int) : (numbered stem n).NeverBlank := by
  intro k
  induction k generalizing n with
  | zero => exact numberedId_ne stem n
  | succ k ih => exact ih (n + 1)

end IdSource

namespace Service

open Wire

/-- The action writes to the registry. -/
def Action.isWrite : Action → Bool
  | .upsert | .delete | .patch _ | .allow _ => true
  | .list | .fetch _ => false

namespace Demand

/-- The demand is to store a link that does not join two interfaces. -/
def isUnsound : Demand → Bool
  | .store b => !b.joinsTwo
  | .list _ | .delete _ | .fetch _ | .patch _ _ | .allow _ _ => false

/-- The demand names an id that is not stored. -/
def namesUnknown (r : Registry) : Demand → Bool
  | .delete ids => ids.any fun id => (r.find? id).isNone
  | .fetch id | .patch id _ | .allow id _ => (r.find? id).isNone
  | .store _ | .list _ => false

/-- The status that a demand is answered with. -/
def status (r : Registry) (d : Demand) : Nat :=
  if d.isUnsound then 400 else if d.namesUnknown r then 404 else 200

theorem status_eq_of_isUnsound {d : Demand} (h : d.isUnsound = true) (r : Registry) :
    d.status r = 400 := by
  unfold status
  rw [if_pos h]

theorem status_eq_of_namesUnknown {d : Demand} {r : Registry} (hsound : d.isUnsound = false)
    (h : d.namesUnknown r = true) : d.status r = 404 := by
  simp [status, hsound, h]

theorem status_eq_of_known {d : Demand} {r : Registry} (hsound : d.isUnsound = false)
    (h : d.namesUnknown r = false) : d.status r = 200 := by
  simp [status, hsound, h]

theorem status_ne_500 (d : Demand) (r : Registry) : d.status r ≠ 500 := by
  unfold status
  split
  · decide
  · split <;> decide

theorem action_of_status_eq {d : Demand} {r : Registry} (h : d.status r = 400) :
    d.action = .upsert := by
  cases d with
  | store b => rfl
  | list q => simp [status, isUnsound, namesUnknown] at h
  | delete _ | fetch _ | patch _ _ | allow _ _ =>
      simp only [status, isUnsound, Bool.false_eq_true, if_false] at h
      split at h <;> cases h

end Demand

namespace Request

/-- The status that a request for an action is answered with. -/
def statusAt (r : Request) (registry : Registry) (a : Action) : Nat :=
  match r.demand a with
  | .error ps => if ps.all (Problem.isWritable · r.document) then 422 else 500
  | .ok d => d.status registry

/-- The request has problems, and one of them quotes a number that is not finite. -/
def HasUnwritableProblem (r : Request) (a : Action) : Prop :=
  ∃ ps, r.demand a = .error ps ∧ ∃ p ∈ ps, p.isWritable r.document = false

theorem statusAt_eq_500_iff (r : Request) (registry : Registry) (a : Action) :
    r.statusAt registry a = 500 ↔ r.HasUnwritableProblem a := by
  unfold statusAt HasUnwritableProblem
  cases r.demand a with
  | error ps => simp
  | ok d => simpa using d.status_ne_500 registry

theorem action_of_statusAt_eq_400 {r : Request} {registry : Registry} {a : Action}
    (h : r.statusAt registry a = 400) : a = .upsert := by
  unfold statusAt at h
  cases hd : r.demand a with
  | error ps =>
      simp only [hd] at h
      split at h <;> cases h
  | ok d =>
      simp only [hd] at h
      rw [← action_of_demand hd]
      exact Demand.action_of_status_eq h

end Request

/-- The index that an answer notes. -/
def Response.lastIndex? : Response → Option Int
  | .link a => some a.note.lastIndex
  | .page a => some a.note.lastIndex
  | .note n => some n.lastIndex
  | .refused _ | .invalid _ | .broken _ | .unwritable | .moved _ | .unknownPath
  | .wrongMethod => none

theorem Response.status_ofProblems (r : Request) (ps : List Problem) :
    (Response.ofProblems r ps).status =
      if ps.all (Problem.isWritable · r.document) then 422 else 500 := by
  unfold Response.ofProblems
  split <;> rfl

/-- A reaction to a demand has the status of the demand, changes the registry only with 200,
and notes the next index if it writes. -/
structure Reaction.Settles (x : Reaction) (s : State) (d : Demand) : Prop where
  status_eq : x.response.status = d.status s.registry
  unchanged : x.response.status ≠ 200 → x.state.registry = s.registry
  lastIndex_eq : d.action.isWrite = true → x.response.status = 200 →
    x.response.lastIndex? = some ((s.registry.index : Int) + 1)

namespace State

/-- All stored links are sound and have a wire form, no id is drawn empty, and the default
interval is not negative. -/
structure Sound (s : State) : Prop where
  registry : s.registry.Sound
  presentable : s.registry.Presentable
  ids : s.ids.NeverBlank
  interval : ∀ k ∈ s.defaultKeepalive, 0 ≤ k

section Settling

variable {s : State} {now : Time.Timestamp} {d : Demand} {x : Reaction}

theorem settles_of_refused {f : Fault} (hresponse : x.response = .refused f)
    (hregistry : x.state.registry = s.registry)
    (hstatus : (Response.refused f).status = d.status s.registry) : x.Settles s d where
  status_eq := by
    rw [hresponse]
    exact hstatus
  unchanged := fun _ => hregistry
  lastIndex_eq := by
    intro _ hok
    rw [hresponse] at hok
    cases f <;> cases hok

theorem settles_of_unknown {o : Order} {id : String}
    (hstep : s.registry.step now o.operation = s.registry.refuse (.unknownId id))
    (hstatus : d.status s.registry = 404) : (s.execute now o).Settles s d := by
  rw [execute_of_error hstep]
  exact settles_of_refused rfl rfl hstatus.symm

theorem settles_of_read (hstatus : d.status s.registry = 200)
    (hresponse : x.response.status = 200) (hregistry : x.state.registry = s.registry)
    (hread : d.action.isWrite = false) : x.Settles s d where
  status_eq := hresponse.trans hstatus.symm
  unchanged := fun _ => hregistry
  lastIndex_eq := by
    intro hwrite
    rw [hread] at hwrite
    cases hwrite

theorem settles_of_write (hstatus : d.status s.registry = 200)
    (hresponse : x.response.status = 200)
    (hindex : x.response.lastIndex? = some ((s.registry.index : Int) + 1)) : x.Settles s d where
  status_eq := hresponse.trans hstatus.symm
  unchanged := fun hne => absurd hresponse hne
  lastIndex_eq := fun _ _ => hindex

/-- The answer to a write of a link that has a wire form is the link. -/
theorem settles_of_link {l : Link} (hl : l.HasWireForm)
    (hresponse : x.response = .ofLink l (s.registry.index + 1))
    (hstatus : d.status s.registry = 200) : x.Settles s d := by
  obtain ⟨b, hb⟩ := Response.ofLink_of_hasWireForm hl (s.registry.index + 1)
  rw [hb] at hresponse
  refine settles_of_write hstatus ?_ ?_
  · rw [hresponse]
    rfl
  · rw [hresponse]
    rfl

theorem Sound.accepts_eq (hs : s.Sound) (b : LinkBody) : s.accepts b = b.joinsTwo := by
  have hkey : s.keyFor b ≠ "" := by
    unfold keyFor
    split
    · exact hs.ids 0
    · assumption
  simp [accepts, hkey]

theorem Sound.settles_store (hs : s.Sound) (now : Time.Timestamp) (b : LinkBody) :
    (s.react now (.store b)).Settles s (.store b) := by
  have haccepts : s.accepts b = b.joinsTwo := hs.accepts_eq b
  rcases s.react_store_cases now b with
    ⟨hrefuses, hregistry, f, hresponse, hf⟩ | ⟨htakes, l, ⟨-, hresponse⟩, -, hkeepalive⟩
  · have hunsound : (Demand.store b).isUnsound = true := by
      simp [Demand.isUnsound, ← haccepts, hrefuses]
    refine settles_of_refused hresponse hregistry ?_
    rw [hf, Demand.status_eq_of_isUnsound hunsound]
  · have hsound : (Demand.store b).isUnsound = false := by
      simp [Demand.isUnsound, ← haccepts, htakes]
    have hl : l.HasWireForm := Link.hasWireForm_of_or b.keepalive_nonneg hs.interval hkeepalive
    exact settles_of_link hl hresponse (Demand.status_eq_of_known hsound rfl)

theorem Sound.settles_list (hs : s.Sound) (now : Time.Timestamp) (q : ListRequest) :
    (s.react now (.list q)).Settles s (.list q) := by
  have hreact : s.react now (.list q) = s.list now q := rfl
  rw [hreact, list_of_sound hs.registry now q]
  exact settles_of_read rfl rfl rfl rfl

theorem settles_delete (s : State) (now : Time.Timestamp) (ids : List String) :
    (s.react now (.delete ids)).Settles s (.delete ids) := by
  change (s.execute now (s.plainOrder (.delete ids))).Settles s _
  cases hfind : ids.find? fun id => (s.registry.find? id).isNone with
  | some id =>
      have hunknown : (Demand.delete ids).namesUnknown s.registry = true := by
        have hnone := List.find?_some hfind
        exact List.any_eq_true.mpr ⟨id, List.mem_of_find?_eq_some hfind, hnone⟩
      exact settles_of_unknown (Registry.delete_of_unknown hfind)
        (Demand.status_eq_of_namesUnknown rfl hunknown)
  | none =>
      have hknown : (Demand.delete ids).namesUnknown s.registry = false := by
        change (ids.any fun id => (s.registry.find? id).isNone) = false
        rw [List.any_eq_false]
        exact List.find?_eq_none.mp hfind
      have hresponse : (s.execute now (s.plainOrder (.delete ids))).response =
          .note (Note.ofIndex (s.registry.index + 1)) := by
        unfold execute
        change Response.ofOutcome _ (s.registry.delete ids) = _
        rw [Registry.delete_of_known hfind]
        rfl
      refine settles_of_write (Demand.status_eq_of_known rfl hknown) ?_ ?_
      · rw [hresponse]
        rfl
      · rw [hresponse]
        rfl

/-- A demand for one id settles if an unknown id is refused and a stored link settles. -/
theorem settles_of_find {op : Operation} {id : String} (hsound : d.isUnsound = false)
    (hnames : d.namesUnknown s.registry = (s.registry.find? id).isNone)
    (hunknown : s.registry.find? id = none →
      s.registry.step now op = s.registry.refuse (.unknownId id))
    (hknown : ∀ l, s.registry.find? id = some l → d.status s.registry = 200 →
      (s.execute now (s.plainOrder op)).Settles s d) :
    (s.execute now (s.plainOrder op)).Settles s d := by
  cases hfind : s.registry.find? id with
  | none =>
      rw [hfind] at hnames
      exact settles_of_unknown (hunknown hfind) (Demand.status_eq_of_namesUnknown hsound hnames)
  | some l =>
      rw [hfind] at hnames
      exact hknown l hfind (Demand.status_eq_of_known hsound hnames)

theorem Sound.settles_fetch (hs : s.Sound) (now : Time.Timestamp) (id : String) :
    (s.react now (.fetch id)).Settles s (.fetch id) := by
  change (s.execute now (s.plainOrder (.get id))).Settles s _
  refine settles_of_find rfl rfl Registry.get_of_unknown ?_
  intro l hfind hstatus
  obtain ⟨b, hb⟩ :=
    Response.ofLink_of_hasWireForm (hs.presentable.hasWireForm hfind) s.registry.index
  change (s.react now (.fetch id)).Settles s _
  rw [react_fetch_of_known hfind, hb]
  exact settles_of_read hstatus rfl rfl rfl

theorem Sound.settles_patch (hs : s.Sound) (now : Time.Timestamp) (id : String)
    (b : LinkBody) : (s.react now (.patch id b)).Settles s (.patch id b) := by
  change (s.execute now (s.plainOrder (.patch id b.toPatch))).Settles s _
  refine settles_of_find rfl rfl (fun h => Registry.patch_of_unknown h now b.toPatch) ?_
  intro l hfind hstatus
  have hl : l.HasWireForm := hs.presentable.hasWireForm hfind
  obtain ⟨hresponse, -⟩ := execute_of_commit (o := s.plainOrder (.patch id b.toPatch))
    (hs.registry.patch_eq hfind now b.toPatch)
  exact settles_of_link (l.hasWireForm_patched b.keepalive_nonneg hl now) hresponse hstatus

theorem Sound.settles_allow (hs : s.Sound) (now : Time.Timestamp) (id ip : String) :
    (s.react now (.allow id ip)).Settles s (.allow id ip) := by
  change (s.execute now (s.plainOrder (.allow id ip))).Settles s _
  refine settles_of_find rfl rfl (fun h => Registry.allow_of_unknown h now ip) ?_
  intro l hfind hstatus
  have hl : l.HasWireForm := hs.presentable.hasWireForm hfind
  have hallowed : (l.allowed ip now).HasWireForm := hl
  obtain ⟨hresponse, -⟩ := execute_of_commit (o := s.plainOrder (.allow id ip))
    (hs.registry.allow_eq hfind now ip)
  exact settles_of_link hallowed hresponse hstatus

theorem Sound.settles (hs : s.Sound) (now : Time.Timestamp) (d : Demand) :
    (s.react now d).Settles s d := by
  cases d with
  | store b => exact hs.settles_store now b
  | list q => exact hs.settles_list now q
  | delete ids => exact settles_delete s now ids
  | fetch id => exact hs.settles_fetch now id
  | patch id b => exact hs.settles_patch now id b
  | allow id ip => exact hs.settles_allow now id ip

end Settling

section Keeping

variable {s : State}

theorem Sound.neverBlank_complete (hs : s.Sound) (now : Time.Timestamp) (l : Link) :
    (s.complete now l).2.NeverBlank := by
  rw [complete_ids]
  split
  · exact hs.ids.draw
  · exact hs.ids

theorem Sound.neverBlank_of_orderFor (hs : s.Sound) {now : Time.Timestamp} {d : Demand}
    {o : Order} (ho : s.orderFor now d = .ok o) : o.ids.NeverBlank := by
  cases d with
  | store b =>
      obtain ⟨l, -, rfl⟩ := exists_of_orderFor_store ho
      exact hs.neverBlank_complete now l
  | list _ | delete _ | fetch _ | patch _ _ | allow _ _ =>
      cases ho
      exact hs.ids

theorem Sound.answerable (hs : s.Sound) : s.Answerable :=
  ⟨hs.registry, hs.presentable, hs.interval⟩

theorem Sound.handle (hs : s.Sound) (now : Time.Timestamp) (r : Request) :
    (s.handle now r).state.Sound := by
  refine handle_keeps hs ?_
  intro a d o _ _ ho
  -- the operation is carried out, so the link of the demand may be stored
  have hlater : (s.execute now o).state.Answerable := hs.answerable.execute ho
  exact ⟨hlater.registry, hlater.presentable, hs.neverBlank_of_orderFor ho, hs.interval⟩

theorem Sound.serve (hs : s.Sound) (rs : List (Time.Timestamp × Request)) :
    (s.serve rs).2.Sound :=
  serve_keeps (fun _ now r ht => ht.handle now r) hs rs

theorem sound_start {ids : IdSource} (hids : ids.NeverBlank) {interval : Option Int}
    (hinterval : ∀ k ∈ interval, 0 ≤ k) : (start ids interval).Sound where
  registry := Registry.sound_empty
  presentable := fun _ hx => nomatch hx
  ids := hids
  interval := hinterval

end Keeping

/-- How a request for an action is answered, and what it leaves behind. -/
structure Tabled (s : State) (now : Time.Timestamp) (r : Request) (a : Action) : Prop where
  status_eq : (s.handle now r).response.status = r.statusAt s.registry a
  /-- All problems are told if the body has no number that cannot be written. -/
  problems_told : ∀ ps, r.demand a = .error ps → (∀ j ∈ r.body, j.isFinite = true) →
    (s.handle now r).response = .invalid ps
  /-- The one way to fail. -/
  fails_iff : (s.handle now r).response.status = 500 ↔ r.HasUnwritableProblem a
  refused_only : (s.handle now r).response.status = 400 → a = .upsert
  unchanged : (s.handle now r).response.status ≠ 200 →
    (s.handle now r).state.registry = s.registry
  lastIndex_eq : a.isWrite = true → (s.handle now r).response.status = 200 →
    (s.handle now r).response.lastIndex? = some ((s.registry.index : Int) + 1)

section Table

variable {s : State} {r : Request} {a : Action}

theorem Tabled.of_status {now : Time.Timestamp}
    (hstatus : (s.handle now r).response.status = r.statusAt s.registry a)
    (htold : ∀ ps, r.demand a = .error ps → (∀ j ∈ r.body, j.isFinite = true) →
      (s.handle now r).response = .invalid ps)
    (hunchanged : (s.handle now r).response.status ≠ 200 →
      (s.handle now r).state.registry = s.registry)
    (hindex : a.isWrite = true → (s.handle now r).response.status = 200 →
      (s.handle now r).response.lastIndex? = some ((s.registry.index : Int) + 1)) :
    s.Tabled now r a where
  status_eq := hstatus
  problems_told := htold
  fails_iff := by
    rw [hstatus]
    exact r.statusAt_eq_500_iff s.registry a
  refused_only := by
    rw [hstatus]
    exact Request.action_of_statusAt_eq_400
  unchanged := hunchanged
  lastIndex_eq := hindex

theorem tabled_of_problems (s : State) (now : Time.Timestamp) (ha : r.action? = some a)
    {ps : List Problem} (h : r.demand a = .error ps) : s.Tabled now r a := by
  have hhandle := handle_of_problems s now ha h
  refine .of_status ?_ ?_ ?_ ?_
  · rw [hhandle, Response.status_ofProblems]
    simp only [Request.statusAt, h]
  · intro ps' h' hfinite
    cases h.symm.trans h'
    rw [hhandle]
    exact Response.ofProblems_eq_invalid ps hfinite
  · intro _
    rw [hhandle]
  · intro _ hok
    rw [hhandle, Response.status_ofProblems] at hok
    split at hok <;> cases hok

theorem Sound.tabled_of_demand (hs : s.Sound) (now : Time.Timestamp) (ha : r.action? = some a)
    {d : Demand} (h : r.demand a = .ok d) : s.Tabled now r a := by
  have hsettles := hs.settles now d
  rw [← handle_of_demand s now ha h] at hsettles
  refine .of_status ?_ ?_ hsettles.unchanged ?_
  · rw [hsettles.status_eq]
    simp only [Request.statusAt, h]
  · intro ps hproblems
    cases h.symm.trans hproblems
  · rw [← Request.action_of_demand h]
    exact hsettles.lastIndex_eq

theorem Sound.tabled (hs : s.Sound) (now : Time.Timestamp) (ha : r.action? = some a) :
    s.Tabled now r a := by
  cases h : r.demand a with
  | error ps => exact tabled_of_problems s now ha h
  | ok d => exact hs.tabled_of_demand now ha h

/-- After any requests to a new service, the table says how the next one is answered. -/
theorem handle_follows_table {ids : IdSource} (hids : ids.NeverBlank) {interval : Option Int}
    (hinterval : ∀ k ∈ interval, 0 ≤ k) (rs : List (Time.Timestamp × Request))
    (now : Time.Timestamp) {r : Request} {a : Action} (ha : r.action? = some a) :
    ((start ids interval).serve rs).2.Tabled now r a :=
  ((sound_start hids hinterval).serve rs).tabled now ha

/-- Of two links that are to be deleted, one was stored under a drawn id; the other is not
stored. -/
theorem handle_follows_table_trial :
    let s := ((start (.numbered "conn" 1) (some 25)).serve
      [(Registry.trialTime, .storing "" "i" "j")]).2
    let r := Request.deleting "connection_ids" (Json.texts ["conn-1", "z"])
    s.registry.ids = ["conn-1"] ∧ r.action? = some .delete ∧
      s.Tabled Registry.trialTime r .delete ∧
      (s.handle Registry.trialTime r).response.status = 404 := by
  intro s r
  have haction : r.action? = some .delete := by decide +kernel
  have hinterval : ∀ k ∈ some (25 : Int), 0 ≤ k := by decide
  have htabled : s.Tabled Registry.trialTime r .delete :=
    handle_follows_table (IdSource.neverBlank_numbered "conn" 1) hinterval
      [(Registry.trialTime, .storing "" "i" "j")] Registry.trialTime haction
  refine ⟨by decide +kernel, haction, htabled, ?_⟩
  rw [htabled.status_eq]
  decide +kernel

/-- The ids to delete are missing, and the problem quotes the body, which holds an infinite
number elsewhere. -/
theorem fails_on_infinite_field :
    let s := ((start (.numbered "conn" 1) none).serve []).2
    let r := Request.deleting "ids" .nonFinite
    (IdSource.numbered "conn" 1).NeverBlank ∧ r.action? = some .delete ∧
      (∃ ps, r.demand .delete = .error ps) ∧
      (s.handle Registry.trialTime r).response.status = 500 := by
  intro s r
  refine ⟨IdSource.neverBlank_numbered "conn" 1, ?_, ?_, ?_⟩
  · decide +kernel
  · exact ⟨[⟨.missing, [.field "body", .field "connection_ids"]⟩], rfl⟩
  · decide +kernel

end Table
end State
end Service
end LinkRegistry
