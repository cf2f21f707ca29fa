import LinkRegistry.Proofs.WireLink
import LinkRegistry.Service.Basic

/-!
# What requests demand

**Input.** A service, and requests to it, one after the other.

**Rule.** A request is read as a whole before anything else happens.  Either its query or body
has problems, and these are the answer, or the reading gives a demand, and the reaction
depends on nothing but the demand.  Whatever a request does to the registry is one
operation.  A link is stored if it joins two interfaces, under its own id or else under a
drawn one that is not empty; its interval is its own or else the default one.

**Results.**
* `handle_of_problems`, `handle_of_demand`: the reaction to a request.
* `handle_cases_of_action`: a request is answered at once, or one operation is carried out.
* `handle_keeps`: a request keeps what its operation keeps.
* `react_store_cases`: when a link is stored, and which one.
* `serve_keeps_at`, `serve_keeps`: what each request keeps is kept by all of them.
-/

namespace LinkRegistry

namespace Wire

namespace LinkBody

variable {b : LinkBody} {l : Link}

/-- The listed peers are two, at different interfaces. -/
def joinsTwo (b : LinkBody) : Bool :=
  match b.peers with
  | some [p, q] => p.interface != q.interface
  | _ => false

/-- Peers that are listed and are not two make no link. -/
theorem toLink_eq_error {f : Fault} (h : b.toLink = .error f) :
    f = .endCount ∧ b.joinsTwo = false := by
  obtain ⟨rfl, ps, hpeers, hlength⟩ := toLink_eq_error_iff.mp h
  refine ⟨rfl, ?_⟩
  unfold joinsTwo
  split
  · rename_i htwo
    rw [hpeers] at htwo
    cases htwo
    exact absurd rfl hlength
  · rfl

/-- A link made from a body is sound if the body joins two interfaces. -/
theorem validate_of_toLink (h : b.toLink = .ok l) :
    (b.joinsTwo = true ∧ l.validate = .ok ()) ∨ b.joinsTwo = false ∧
      ∃ f, l.validate = .error f ∧ (Service.Response.refused f).status = 400 := by
  obtain ⟨id, network, peers, keepalive, created, updated⟩ := b
  match peers, h with
  | none, h =>
      cases h
      exact Or.inr ⟨rfl, .endCount, rfl, rfl⟩
  | some [p, q], h =>
      cases h
      by_cases hloop : p.interface = q.interface
      · refine Or.inr ⟨?_, .selfLoop, ?_, rfl⟩
        · simp [joinsTwo, hloop]
        · simp [Link.validate, hloop]
      · refine Or.inl ⟨?_, ?_⟩
        · simp [joinsTwo, hloop]
        · simp [Link.validate, hloop]

theorem keepalive_nonneg (b : LinkBody) : ∀ k ∈ b.keepalive.map Int.ofNat, 0 ≤ k := by
  intro k hk
  obtain ⟨n, -, rfl⟩ := Option.map_eq_some_iff.mp hk
  exact Int.natCast_nonneg n

end LinkBody
end Wire

namespace Service

open Wire

/-- What a request demands, once its query or body is read. -/
inductive Demand where
  | store (b : LinkBody)
  | list (q : ListRequest)
  | delete (ids : List String)
  | fetch (id : String)
  | patch (id : String) (b : LinkBody)
  | allow (id ip : String)

/-- The action that the demand is for. -/
def Demand.action : Demand → Action
  | .store _ => .upsert
  | .list _ => .list
  | .delete _ => .delete
  | .fetch id => .fetch id
  | .patch id _ => .patch id
  | .allow id _ => .allow id

namespace Request

/-- Read what the request demands. -/
def demand (r : Request) : Action → Reading Demand
  | .upsert => (r.readBody UpsertRequest.read).map fun u => .store u.link
  | .list => r.listRequest.map .list
  | .delete => (r.readBody DeleteRequest.read).map fun d => .delete d.ids
  | .fetch id => .ok (.fetch id)
  | .patch id => (r.readBody LinkBody.read).map (.patch id)
  | .allow id => (r.readBody AllowRequest.read).map fun a => .allow id a.ip

theorem action_of_demand {r : Request} {a : Action} {d : Demand} (h : r.demand a = .ok d) :
    d.action = a := by
  cases a with
  | fetch id =>
      cases h
      rfl
  | upsert | list | delete | patch _ | allow _ =>
      obtain ⟨x, -, rfl⟩ := Reading.exists_of_map_eq_ok h
      rfl

/-- A request to store a link between two interfaces. -/
def storing (id i j : String) : Request :=
  let peer (k : String) : Json := .object [("interface_id", .text k)]
  let link : Json := .object [("id", .text id), ("peer_settings", .array [peer i, peer j])]
  ⟨"POST", "/connections", [], some (.object [("connection", link)])⟩

/-- A request to delete links, with this value in a field. -/
def deleting (field : String) (j : Json) : Request :=
  ⟨"POST", "/connections/delete", [], some (.object [(field, j)])⟩

end Request

namespace State

/-- The id that the link of the body is stored under. -/
def keyFor (s : State) (b : LinkBody) : String :=
  if b.id = "" then s.ids.draw.1 else b.id

/-- The service stores the link of the body: it joins two interfaces and gets an id. -/
def accepts (s : State) (b : LinkBody) : Bool :=
  b.joinsTwo && s.keyFor b != ""

/-- The order for a demand. -/
def orderFor (s : State) (now : Time.Timestamp) : Demand → Except Response Order
  | .store b =>
      match b.toLink with
      | .error f => .error (.refused f)
      | .ok l => .ok ⟨.upsert (s.complete now l).1, PageOptions.all, (s.complete now l).2⟩
  | .list q => .ok (s.listOrder q)
  | .delete ids => .ok (s.plainOrder (.delete ids))
  | .fetch id => .ok (s.plainOrder (.get id))
  | .patch id b => .ok (s.plainOrder (.patch id b.toPatch))
  | .allow id ip => .ok (s.plainOrder (.allow id ip))

/-- The order for what was read of a request. -/
def orderOf (s : State) (now : Time.Timestamp) (r : Request) :
    Reading Demand → Except Response Order
  | .error ps => .error (.ofProblems r ps)
  | .ok d => s.orderFor now d

/-- The reaction to a demand. -/
def react (s : State) (now : Time.Timestamp) (d : Demand) : Reaction :=
  match s.orderFor now d with
  | .error response => ⟨response, [], s⟩
  | .ok o => s.execute now o

/-- The reaction to a request that is taken for an action, whatever its path is. -/
def perform (s : State) (now : Time.Timestamp) (r : Request) (a : Action) : Reaction :=
  match s.order now r a with
  | .error response => ⟨response, [], s⟩
  | .ok o => s.execute now o

section Handling

variable {r : Request} {a : Action}

/-- A request is taken for the action that its method and its path lead to. -/
theorem handle_of_action (s : State) (now : Time.Timestamp) (ha : r.action? = some a) :
    s.handle now r = s.perform now r a := by
  unfold handle perform
  cases ho : s.order now r a <;> simp only [ha, ho]

theorem order_eq (s : State) (now : Time.Timestamp) (r : Request) (a : Action) :
    s.order now r a = s.orderOf now r (r.demand a) := by
  cases a with
  | upsert =>
      unfold order Request.demand
      cases r.readBody UpsertRequest.read <;> rfl
  | list =>
      unfold order Request.demand
      cases r.listRequest <;> rfl
  | delete =>
      unfold order Request.demand
      cases r.readBody DeleteRequest.read <;> rfl
  | fetch id => rfl
  | patch id =>
      unfold order Request.demand
      cases r.readBody LinkBody.read <;> rfl
  | allow id =>
      unfold order Request.demand
      cases r.readBody AllowRequest.read <;> rfl

theorem perform_of_problems (s : State) (now : Time.Timestamp) {ps : List Problem}
    (h : r.demand a = .error ps) : s.perform now r a = ⟨.ofProblems r ps, [], s⟩ := by
  unfold perform
  rw [order_eq, h]
  rfl

theorem perform_of_demand (s : State) (now : Time.Timestamp) {d : Demand}
    (h : r.demand a = .ok d) : s.perform now r a = s.react now d := by
  unfold perform
  rw [order_eq, h]
  rfl

theorem handle_of_problems (s : State) (now : Time.Timestamp) (ha : r.action? = some a)
    {ps : List Problem} (h : r.demand a = .error ps) :
    s.handle now r = ⟨.ofProblems r ps, [], s⟩ :=
  (s.handle_of_action now ha).trans (s.perform_of_problems now h)

theorem handle_of_demand (s : State) (now : Time.Timestamp) (ha : r.action? = some a)
    {d : Demand} (h : r.demand a = .ok d) : s.handle now r = s.react now d :=
  (s.handle_of_action now ha).trans (s.perform_of_demand now h)

theorem handle_of_no_action (s : State) (now : Time.Timestamp) (ha : r.action? = none) :
    s.handle now r = ⟨.unrouted r.path, [], s⟩ := by
  unfold handle
  rw [ha]

/-- A request for an action is answered at once, or it demands one operation. -/
theorem handle_cases_of_action (s : State) (now : Time.Timestamp) (ha : r.action? = some a) :
    (∃ response, s.handle now r = ⟨response, [], s⟩) ∨
      ∃ d o, r.demand a = .ok d ∧ s.orderFor now d = .ok o ∧ s.handle now r = s.execute now o := by
  cases hd : r.demand a with
  | error ps => exact Or.inl ⟨_, handle_of_problems s now ha hd⟩
  | ok d =>
      have hreact := handle_of_demand s now ha hd
      unfold react at hreact
      cases ho : s.orderFor now d with
      | error response =>
          rw [ho] at hreact
          exact Or.inl ⟨response, hreact⟩
      | ok o =>
          rw [ho] at hreact
          exact Or.inr ⟨d, o, rfl, ho, hreact⟩

/-- What the operation that a request demands keeps is kept by the request. -/
theorem handle_keeps {s : State} {P : State → Prop} (h : P s) {now : Time.Timestamp} {r : Request}
    (hexecute : ∀ a d o, r.action? = some a → r.demand a = .ok d → s.orderFor now d = .ok o →
      P (s.execute now o).state) : P (s.handle now r).state := by
  have hsame {response : Response} (hr : s.handle now r = ⟨response, [], s⟩) :
      P (s.handle now r).state := by
    rw [hr]
    exact h
  cases ha : r.action? with
  | none =>
      exact hsame (s.handle_of_no_action now ha)
  | some a =>
      rcases s.handle_cases_of_action now ha with ⟨response, hr⟩ | ⟨d, o, hd, ho, hr⟩
      · exact hsame hr
      · rw [hr]
        exact hexecute a d o ha hd ho

end Handling

section Executing

variable {s : State} {now : Time.Timestamp} {o : Order}

theorem execute_of_error {f : Fault} {events : List Event}
    (h : s.registry.step now o.operation = ⟨.error f, events, s.registry⟩) :
    s.execute now o = ⟨.refused f, events, { s with ids := o.ids }⟩ := by
  unfold execute
  rw [h]
  rfl

theorem execute_of_commit {key : String} {l : Link} {event : Nat → Event}
    (h : s.registry.step now o.operation = s.registry.commit key l event) :
    (s.execute now o).response = .ofLink l (s.registry.index + 1) ∧
      (s.execute now o).state.registry = s.registry.write (s.registry.entries.store key l) := by
  unfold execute
  rw [h]
  exact ⟨rfl, rfl⟩

end Executing

section Storing

variable {s : State} {b : LinkBody} {l : Link}

theorem react_store_of_fault (s : State) (now : Time.Timestamp) {f : Fault}
    (h : b.toLink = .error f) : s.react now (.store b) = ⟨.refused f, [], s⟩ := by
  simp only [react, orderFor, h]

theorem react_store_of_link (s : State) (now : Time.Timestamp) (h : b.toLink = .ok l) :
    s.react now (.store b) =
      s.execute now
        ⟨.upsert (s.complete now l).1, PageOptions.all, (s.complete now l).2⟩ := by
  simp only [react, orderFor, h]

theorem complete_id (h : b.toLink = .ok l) (s : State) (now : Time.Timestamp) :
    (s.complete now l).1.id = s.keyFor b := by
  have hid : l.id = b.id := (LinkBody.toLink_eq_ok_iff.mp h).id
  unfold complete keyFor
  rw [hid]
  split
  · rfl
  · exact hid

theorem complete_ids (s : State) (now : Time.Timestamp) (l : Link) :
    (s.complete now l).2 = if l.id = "" then s.ids.draw.2 else s.ids := by
  unfold complete
  split <;> rfl

theorem complete_keepalive (s : State) (now : Time.Timestamp) (l : Link) :
    (s.complete now l).1.keepalive = l.keepalive.or s.defaultKeepalive := by
  unfold complete
  split <;> rfl

theorem validate_complete (s : State) (now : Time.Timestamp) (l : Link) :
    (s.complete now l).1.validate = l.validate := by
  have hends : (s.complete now l).1.ends = l.ends := by
    unfold complete
    split <;> rfl
  unfold Link.validate
  rw [hends]

theorem hasWireForm_complete (h : b.toLink = .ok l)
    (hinterval : ∀ k ∈ s.defaultKeepalive, 0 ≤ k) (now : Time.Timestamp) :
    (s.complete now l).1.HasWireForm := by
  refine Link.hasWireForm_of_or b.keepalive_nonneg hinterval ?_
  rw [complete_keepalive, (LinkBody.toLink_eq_ok_iff.mp h).keepalive]

theorem exists_of_orderFor_store {now : Time.Timestamp} {o : Order}
    (ho : s.orderFor now (.store b) = .ok o) : ∃ l, b.toLink = .ok l ∧
      o = ⟨.upsert (s.complete now l).1, PageOptions.all, (s.complete now l).2⟩ := by
  unfold orderFor at ho
  dsimp only at ho
  split at ho
  · cases ho
  · rename_i l hlink
    cases ho
    exact ⟨l, hlink, rfl⟩

/-- No demand brings a link without a wire form into the registry. -/
theorem presentable_of_orderFor (hinterval : ∀ k ∈ s.defaultKeepalive, 0 ≤ k)
    {now : Time.Timestamp} {d : Demand} {o : Order} (ho : s.orderFor now d = .ok o) :
    o.operation.Presentable := by
  cases d with
  | store b =>
      obtain ⟨l, hlink, rfl⟩ := exists_of_orderFor_store ho
      exact hasWireForm_complete hlink hinterval now
  | patch id b =>
      cases ho
      exact b.keepalive_nonneg
  | list _ | delete _ | fetch _ | allow _ _ =>
      cases ho
      trivial

/-- The service does not take the link: it answers 400, and the registry stays. -/
def Refuses (s : State) (x : Reaction) : Prop :=
  x.state.registry = s.registry ∧
    ∃ f, x.response = .refused f ∧ (Response.refused f).status = 400

/-- The service stores the link under its id, and answers with it. -/
def Takes (s : State) (l : Link) (x : Reaction) : Prop :=
  x.state.registry = s.registry.write (s.registry.entries.store l.id l) ∧
    x.response = .ofLink l (s.registry.index + 1)

/-- A link that gets an id and passes validation is stored in its completed form. -/
theorem takes_of_valid (hlink : b.toLink = .ok l) (hkey : s.keyFor b ≠ "")
    (hvalid : l.validate = .ok ()) (now : Time.Timestamp) :
    s.Takes (s.registry.stored now (s.complete now l).1) (s.react now (.store b)) := by
  let o : Order := ⟨.upsert (s.complete now l).1, PageOptions.all, (s.complete now l).2⟩
  have hid : (s.complete now l).1.id ≠ "" := by
    rw [complete_id hlink]
    exact hkey
  have hcompleted : (s.complete now l).1.validate = .ok () :=
    (s.validate_complete now l).trans hvalid
  obtain ⟨event, hstep⟩ := Registry.upsert_of_valid (r := s.registry) hid hcompleted now
  obtain ⟨hresponse, hregistry⟩ := execute_of_commit (s := s) (o := o) hstep
  rw [react_store_of_link s now hlink]
  exact ⟨hregistry, hresponse⟩

/-- A link is refused unless the service accepts it; then it is stored, and its interval is
that of the body or else the default one. -/
theorem react_store_cases (s : State) (now : Time.Timestamp) (b : LinkBody) :
    (s.accepts b = false ∧ s.Refuses (s.react now (.store b))) ∨
      s.accepts b = true ∧ ∃ l : Link, s.Takes l (s.react now (.store b)) ∧
        l.id = s.keyFor b ∧ l.keepalive = (b.keepalive.map Int.ofNat).or s.defaultKeepalive := by
  cases hlink : b.toLink with
  | error f =>
      obtain ⟨rfl, hjoins⟩ := LinkBody.toLink_eq_error hlink
      rw [react_store_of_fault s now hlink]
      exact Or.inl ⟨by simp [accepts, hjoins], rfl, _, rfl, rfl⟩
  | ok l =>
      let completed := (s.complete now l).1
      let o : Order := ⟨.upsert completed, PageOptions.all, (s.complete now l).2⟩
      have hreact : s.react now (.store b) = s.execute now o := react_store_of_link s now hlink
      have hkey : completed.id = s.keyFor b := complete_id hlink s now
      -- the id is looked at before the ends, and either can be refused
      by_cases hid : s.keyFor b = ""
      · have hstep : s.registry.step now o.operation = ⟨.error .noId, [], s.registry⟩ :=
          Registry.upsert_of_noId (hkey.trans hid) now
        rw [hreact, execute_of_error hstep]
        exact Or.inl ⟨by simp [accepts, hid], rfl, _, rfl, rfl⟩
      · rcases LinkBody.validate_of_toLink hlink with ⟨hjoins, hvalid⟩ | ⟨hjoins, f, hf, hstatus⟩
        · refine Or.inr ⟨by simp [accepts, hid, hjoins], ?_⟩
          refine ⟨s.registry.stored now completed, takes_of_valid hlink hid hvalid now, hkey, ?_⟩
          change completed.keepalive = _
          rw [complete_keepalive, (LinkBody.toLink_eq_ok_iff.mp hlink).keepalive]
        · have hne : completed.id ≠ "" := by
            rw [hkey]
            exact hid
          have hstep : s.registry.step now o.operation =
              ⟨.error f, [.rejected completed.id f], s.registry⟩ :=
            Registry.upsert_of_invalid hne ((s.validate_complete now l).trans hf) now
          rw [hreact, execute_of_error hstep]
          exact Or.inl ⟨by simp [accepts, hjoins], rfl, f, rfl, hstatus⟩

theorem accepts_of_status {now : Time.Timestamp}
    (h : (s.react now (.store b)).response.status = 200) : s.accepts b = true := by
  rcases s.react_store_cases now b with ⟨-, -, f, hresponse, hstatus⟩ | ⟨haccepts, -⟩
  · rw [hresponse, hstatus] at h
    cases h
  · exact haccepts

/-- The answer with status 200 to a link that is stored carries that link. -/
theorem Takes.answers {x : Reaction} (h : s.Takes l x) (hok : x.response.status = 200) :
    ∃ body : LinkBody, body.Describes l ∧
      x.response = .link ⟨body, Note.ofIndex (s.registry.index + 1)⟩ := by
  rcases LinkBody.ofLink_cases l with ⟨-, body, hbody⟩ | ⟨hl, -⟩
  · exact ⟨body, LinkBody.ofLink_eq_ok_iff.mp hbody, h.2.trans (Response.ofLink_eq_link hbody _)⟩
  · obtain ⟨ps, hps⟩ := Response.ofLink_of_not_hasWireForm hl (s.registry.index + 1)
    rw [h.2, hps] at hok
    cases hok

theorem react_fetch_of_known {id : String} (h : s.registry.find? id = some l)
    (now : Time.Timestamp) : s.react now (.fetch id) = ⟨.ofLink l s.registry.index, [], s⟩ := by
  change s.execute now (s.plainOrder (.get id)) = _
  unfold execute
  change Reaction.mk (Response.ofOutcome _ (s.registry.get id)) (s.registry.get id).events
    { s with registry := (s.registry.get id).registry } = _
  rw [Registry.get_of_known h]
  rfl

/-- A link that was stored is fetched as it was answered with. -/
theorem Takes.react_fetch {x : Reaction} (h : s.Takes l x) (now : Time.Timestamp) :
    (x.state.react now (.fetch l.id)).response = .ofLink l (s.registry.index + 1) := by
  obtain ⟨hregistry, -⟩ := h
  have hfind : x.state.registry.find? l.id = some l := by
    rw [hregistry]
    change (s.registry.entries.store l.id l).lookup l.id = some l
    rw [Entries.lookup_store, if_pos rfl]
  rw [react_fetch_of_known hfind, hregistry]
  rfl

end Storing

section Serving

variable {s : State}

/-- The service before any request. -/
def start (ids : IdSource) (interval : Option Int) : State :=
  ⟨Registry.empty, ids, interval⟩

/-- What each request of this kind keeps is kept by all of them. -/
theorem serve_keeps_for {P : State → Prop} {T : Time.Timestamp → Request → Prop}
    (hstep : ∀ s now r, T now r → P s → P (s.handle now r).state) (h : P s)
    {rs : List (Time.Timestamp × Request)} (hrs : ∀ x ∈ rs, T x.1 x.2) : P (s.serve rs).2 := by
  -- on the requests, for whatever service they begin with
  induction rs generalizing s with
  | nil => exact h
  | cons x rs ih =>
      have hx : P (s.handle x.1 x.2).state := hstep s x.1 x.2 (hrs x List.mem_cons_self) h
      exact ih hx fun y hy => hrs y (List.mem_cons_of_mem x hy)

/-- What each request at such a time keeps is kept by all of them. -/
theorem serve_keeps_at {P : State → Prop} {T : Time.Timestamp → Prop}
    (hstep : ∀ s now r, T now → P s → P (s.handle now r).state) (h : P s)
    {rs : List (Time.Timestamp × Request)} (hrs : ∀ x ∈ rs, T x.1) : P (s.serve rs).2 :=
  serve_keeps_for (T := fun now _ => T now) hstep h hrs

/-- What each request keeps is kept by all of them. -/
theorem serve_keeps {P : State → Prop}
    (hstep : ∀ s now r, P s → P (s.handle now r).state) (h : P s)
    (rs : List (Time.Timestamp × Request)) : P (s.serve rs).2 :=
  serve_keeps_at (T := fun _ => True) (fun s now r _ => hstep s now r) h fun _ _ => trivial

theorem serve_append (s : State) (xs ys : List (Time.Timestamp × Request)) :
    (s.serve (xs ++ ys)).2 = ((s.serve xs).2.serve ys).2 := by
  induction xs generalizing s with
  | nil => rfl
  | cons x xs ih => exact ih _

theorem defaultKeepalive_handle (s : State) (now : Time.Timestamp) (r : Request) :
    (s.handle now r).state.defaultKeepalive = s.defaultKeepalive :=
  handle_keeps (P := fun t => t.defaultKeepalive = s.defaultKeepalive) rfl fun _ _ _ _ _ _ => rfl

theorem defaultKeepalive_serve (s : State) (rs : List (Time.Timestamp × Request)) :
    (s.serve rs).2.defaultKeepalive = s.defaultKeepalive := by
  refine serve_keeps (P := fun t => t.defaultKeepalive = s.defaultKeepalive) ?_ rfl rs
  intro t now r ht
  rw [defaultKeepalive_handle]
  exact ht

/-- All stored links are sound and have a wire form, and the default interval is not
negative. -/
structure Answerable (s : State) : Prop where
  registry : s.registry.Sound
  presentable : s.registry.Presentable
  interval : ∀ k ∈ s.defaultKeepalive, 0 ≤ k

theorem answerable_start (ids : IdSource) {interval : Option Int}
    (hinterval : ∀ k ∈ interval, 0 ≤ k) : (start ids interval).Answerable where
  registry := Registry.sound_empty
  presentable := fun _ hx => nomatch hx
  interval := hinterval

/-- The operation of a demand keeps what is stored sound and presentable. -/
theorem Answerable.execute (hs : s.Answerable) {now : Time.Timestamp} {d : Demand} {o : Order}
    (ho : s.orderFor now d = .ok o) : (s.execute now o).state.Answerable where
  registry := hs.registry.step now o.operation
  presentable :=
    hs.registry.presentable_step hs.presentable now (presentable_of_orderFor hs.interval ho)
  interval := hs.interval

theorem Answerable.handle (hs : s.Answerable) (now : Time.Timestamp) (r : Request) :
    (s.handle now r).state.Answerable :=
  handle_keeps hs fun _ _ _ _ _ ho => hs.execute ho

theorem Answerable.serve (hs : s.Answerable) (rs : List (Time.Timestamp × Request)) :
    (s.serve rs).2.Answerable :=
  serve_keeps (fun _ now r ht => ht.handle now r) hs rs

end Serving

end State
end Service
end LinkRegistry
