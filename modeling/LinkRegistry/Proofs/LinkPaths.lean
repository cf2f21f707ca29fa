import LinkRegistry.Proofs.Demand

/-!
# Which links are fetched at their paths

**Input.** A service in any state, a request to store a link that is answered with the link, and
the next request, which is for the path of that link.

**Rule.** A path is taken apart at its slashes, and an id is one segment of it.  An id that comes
in a body may have slashes, and then its path has more segments than the path of a link has, so
no such link is fetched, although it is stored: there is no such path, or not for fetching, or
the request is redirected to the path without the slashes at the end.  Every other link is
answered as it was when it was stored.

**Results.**
* `split_append_of_not_mem`, `exists_of_mem_split`: the pieces of a text with separators.
* `lookup_linkPath`, `actions_linkPath_of_slash`: which paths lead to their ids.
* `handle_linkPath_of_slash`: the answer at any other path of an id.
* `Takes.handle_linkPath`: the answer at the path of a link that was stored.
* `fetched_at_path_iff`: which links are fetched back.
* `missed_with_slash`: a link that is not.
-/

namespace LinkRegistry

namespace Text

variable {sep : Char} {cs : List Char}

theorem split_append_of_not_mem (h : sep ∉ cs) (ds : List Char) :
    split sep (cs ++ sep :: ds) = cs :: split sep ds := by
  induction cs with
  | nil => simp [split]
  | cons c cs ih =>
      obtain ⟨hc, hcs⟩ := not_or.mp (mt List.mem_cons.mpr h)
      simp [split, Ne.symm hc, ih hcs]

/-- A text with a separator has at least two pieces. -/
theorem exists_of_mem_split (h : sep ∈ cs) : ∃ p q rest, split sep cs = p :: q :: rest := by
  match hs : split sep cs with
  | [] => exact absurd hs (split_ne_nil sep cs)
  | [p] =>
      have hp : p = cs := by simpa [hs, join] using join_split sep cs
      have hnot : sep ∉ p := not_mem_of_mem_split (by rw [hs]; exact List.mem_cons_self)
      exact absurd h (hp ▸ hnot)
  | p :: q :: rest => exact ⟨p, q, rest, rfl⟩

end Text

namespace Service

open Wire

theorem split_linkPath (id : String) :
    Text.split '/' (linkPath id).toList =
      [] :: "connections".toList :: Text.split '/' id.toList := by
  have hpath : (linkPath id).toList = '/' :: ("connections".toList ++ '/' :: id.toList) := by
    simp [linkPath, String.toList_append]
  have hsegment : '/' ∉ "connections".toList := by decide
  rw [hpath, ← List.nil_append ('/' :: _), Text.split_append_of_not_mem List.not_mem_nil,
    Text.split_append_of_not_mem hsegment]

/-- Links are stored at the path of the collection. -/
theorem lookup_collection : (actions "/connections").lookup "POST" = some .upsert := by
  decide +kernel

/-- The link with the id is fetched and changed at the path of the id. -/
theorem lookup_linkPath {id : String} (hid : id ≠ "") (hslash : '/' ∉ id.toList) :
    (actions (linkPath id)).lookup "GET" = some (.fetch id) ∧
      (actions (linkPath id)).lookup "PATCH" = some (.patch id) := by
  obtain ⟨others, hactions⟩ := actions_linkPath hid hslash
  rw [hactions]
  exact ⟨rfl, rfl⟩

/-- A path with more segments than that of a link is at most one to allow a range at. -/
theorem actions_linkPath_of_slash {id method : String} (h : '/' ∈ id.toList)
    (hmethod : method ≠ "POST") : (actions (linkPath id)).lookup method = none := by
  obtain ⟨p, q, rest, hsplit⟩ := Text.exists_of_mem_split h
  cases rest with
  | nil =>
      simp only [actions, split_linkPath, hsplit]
      split
      · simp [List.lookup_cons, beq_false_of_ne hmethod]
      · rfl
  | cons r rest => simp [actions, split_linkPath, hsplit]

theorem Response.status_unrouted (path : String) :
    (unrouted path).status = 307 ∨ (unrouted path).status = 404 ∨
      (unrouted path).status = 405 := by
  unfold unrouted
  split
  · split
    · exact Or.inl rfl
    · exact Or.inr (Or.inl rfl)
  · exact Or.inr (Or.inr rfl)

theorem Response.status_unrouted_ne (path : String) : (unrouted path).status ≠ 200 := by
  rcases status_unrouted path with h | h | h <;> simp [h]

theorem Response.unrouted_ne_link (path : String) (a : LinkAnswer) : unrouted path ≠ link a := by
  intro h
  have hstatus := status_unrouted_ne path
  rw [h] at hstatus
  exact hstatus rfl

namespace State

section Fetching

variable {s : State} {l : Link} {x : Reaction}

/-- What the service answers to a request for an id. -/
theorem handle_of_fetch (s : State) (now : Time.Timestamp) {id path : String}
    (h : (actions path).lookup "GET" = some (.fetch id)) (query : List (String × String))
    (body : Option Json) :
    s.handle now ⟨"GET", path, query, body⟩ = s.react now (.fetch id) := by
  let r : Request := ⟨"GET", path, query, body⟩
  have haction : r.action? = some (.fetch id) := h
  have hdemand : r.demand (.fetch id) = .ok (.fetch id) := rfl
  exact handle_of_demand s now haction hdemand

theorem Takes.handle_linkPath (h : s.Takes l x) (hid : l.id ≠ "") (hslash : '/' ∉ l.id.toList)
    (now : Time.Timestamp) (query : List (String × String)) (body : Option Json) :
    (x.state.handle now ⟨"GET", linkPath l.id, query, body⟩).response = x.response := by
  rw [x.state.handle_of_fetch now (lookup_linkPath hid hslash).1, h.react_fetch now, h.2]

/-- A request for the path of an id with a slash does nothing. -/
theorem handle_linkPath_of_slash (s : State) (now : Time.Timestamp) {id method : String}
    (h : '/' ∈ id.toList) (hmethod : method ≠ "POST") (query : List (String × String))
    (body : Option Json) :
    s.handle now ⟨method, linkPath id, query, body⟩ = ⟨.unrouted (linkPath id), [], s⟩ :=
  s.handle_of_no_action now (actions_linkPath_of_slash h hmethod)

/-- A request to store a link that is answered with status 200 has stored one under its id. -/
theorem exists_takes_of_status (s : State) {now : Time.Timestamp} {r : Request}
    (ha : r.action? = some .upsert) (hok : (s.handle now r).response.status = 200) :
    ∃ l, s.Takes l (s.handle now r) ∧ l.id ≠ "" := by
  cases hd : r.demand .upsert with
  | error ps =>
      rw [handle_of_problems s now ha hd, Response.ofProblems] at hok
      split at hok <;> cases hok
  | ok d =>
      obtain ⟨b, rfl⟩ : ∃ b, d = .store b := by
        cases d <;> cases Request.action_of_demand hd
        exact ⟨_, rfl⟩
      rw [handle_of_demand s now ha hd] at hok ⊢
      have haccepts := accepts_of_status hok
      rcases s.react_store_cases now b with ⟨hno, -⟩ | ⟨-, l, htakes, hkey, -⟩
      · cases hno.symm.trans haccepts
      · refine ⟨l, htakes, ?_⟩
        rw [hkey]
        exact bne_iff_ne.mp (Bool.and_eq_true_iff.mp haccepts).2

/-- A request to store a link that is answered with status 200 is answered with the link, which
can be asked for by its id from then on.  At its path it is answered the same way exactly if the
id has no slash; otherwise the path is redirected, or there is none, or not one to fetch from. -/
theorem fetched_at_path_iff (s : State) {now : Time.Timestamp} {r : Request}
    (ha : r.action? = some .upsert) (hok : (s.handle now r).response.status = 200) :
    let x := s.handle now r
    ∃ a, x.response = .link a ∧
      (∀ later, (x.state.react later (.fetch a.link.id)).response = .link a) ∧
      ∀ later query body,
        let y := x.state.handle later ⟨"GET", linkPath a.link.id, query, body⟩
        (y.response = .link a ↔ '/' ∉ a.link.id.toList) ∧
          ('/' ∈ a.link.id.toList → y.response.status = 307 ∨ y.response.status = 404 ∨
            y.response.status = 405) := by
  intro x
  obtain ⟨l, htakes, hid⟩ := s.exists_takes_of_status ha hok
  obtain ⟨b, hb, hresponse⟩ := htakes.answers hok
  refine ⟨_, hresponse, ?_, ?_⟩
  · intro later
    rw [← hb.id, htakes.react_fetch later, ← htakes.2, hresponse]
  · intro later query body
    rw [← hb.id]
    by_cases hslash : '/' ∈ l.id.toList
    · have hmethod : "GET" ≠ "POST" := by decide
      have hmissed := Response.status_unrouted (linkPath l.id)
      rw [x.state.handle_linkPath_of_slash later hslash hmethod query body]
      refine ⟨iff_of_false ?_ (not_not_intro hslash), fun _ => hmissed⟩
      exact Response.unrouted_ne_link (linkPath l.id) _
    · have hfound := htakes.handle_linkPath hid hslash later query body
      refine ⟨?_, fun hyes => absurd hyes hslash⟩
      simp [x, hfound, hresponse, hslash]

/-- The answer with a link between two interfaces that is stored first of all. -/
def trialAnswer (id : String) : LinkAnswer :=
  ⟨⟨id, "", some [⟨"", "i", some ⟨some []⟩⟩, ⟨"", "j", some ⟨some []⟩⟩], none,
    some Registry.trialTime, some Registry.trialTime⟩, Note.ofIndex 1⟩

/-- An id with a blank and a percent sign is found again, one with a slash is not. -/
theorem fetched_at_path_iff_trial :
    let s := start (.numbered "conn" 1) none
    let x (id : String) := s.handle Registry.trialTime (.storing id "i" "j")
    let y (id : String) :=
      (x id).state.handle Registry.trialTime ⟨"GET", linkPath id, [], none⟩
    (Request.storing "a %2F" "i" "j").action? = some .upsert ∧
      (x "a %2F").response = .link (trialAnswer "a %2F") ∧
      (y "a %2F").response = .link (trialAnswer "a %2F") ∧
      (Request.storing "a/allow-ip" "i" "j").action? = some .upsert ∧
      (x "a/allow-ip").response = .link (trialAnswer "a/allow-ip") ∧
      (y "a/allow-ip").response ≠ .link (trialAnswer "a/allow-ip") := by
  intro s x y
  have haction (id : String) : (Request.storing id "i" "j").action? = some .upsert :=
    lookup_collection
  have hfound (id : String) (hx : (x id).response = .link (trialAnswer id)) :
      (y id).response = .link (trialAnswer id) ↔ '/' ∉ id.toList := by
    have hok : (x id).response.status = 200 := by
      rw [hx]
      rfl
    obtain ⟨a, ha, -, hpath⟩ := fetched_at_path_iff s (haction id) hok
    cases hx.symm.trans ha
    exact (hpath Registry.trialTime [] none).1
  have hblank : (x "a %2F").response = .link (trialAnswer "a %2F") := by decide +kernel
  have hslash : (x "a/allow-ip").response = .link (trialAnswer "a/allow-ip") := by
    decide +kernel
  refine ⟨haction _, hblank, (hfound _ hblank).mpr (by decide), haction _, hslash, ?_⟩
  rw [Ne, hfound _ hslash]
  decide

/-- The link is stored, and its id leads to it, but its path does not. -/
theorem missed_with_slash :
    let s := start (.numbered "conn" 1) none
    let x := s.handle Registry.trialTime (.storing "a/b" "i" "j")
    x.response.status = 200 ∧ x.state.registry.ids = ["a/b"] ∧
      (x.state.react Registry.trialTime (.fetch "a/b")).response = x.response ∧
      (x.state.handle Registry.trialTime ⟨"GET", linkPath "a/b", [], none⟩).response.status =
        404 := by
  decide +kernel

end Fetching
end State
end Service
end LinkRegistry
