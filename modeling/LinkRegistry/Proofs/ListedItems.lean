import LinkRegistry.Proofs.Demand
import LinkRegistry.Proofs.Paging

/-!
# Listed items and fetched links

**Input.** A service whose default interval is not negative, any requests to it, a request for
the whole listing, and requests for the listed ids.

**Rule.** The listing has one item for each entry, and an item is made from the link in another
way than the answer to a request for that link.  Both are printed from the same parts, so they
have the same values in the fields that they share; the item repeats the interfaces and the
nodes of the peers, and counts no bytes.

**Results.**
* `Describes.shows`: an item against the printed body of its link.
* `perform_list_all`: the answer with the whole listing.
* `perform_fetch_of_known`: the answer with a stored link.
* `items_fetched_after`: each item of the listing against the answer to a request for its id.
-/

namespace LinkRegistry

/-- The values of a field of all peers that a printed link lists, in order. -/
def Json.peerFields? (name : String) (link : Json) : Option (List Json) :=
  ((link.field? "peer_settings").bind Json.items?).bind fun peers =>
    peers.mapM (Json.field? name)

namespace Wire

/-- The fields that the item of a listing has in common with a printed link. -/
def sharedFields : List String :=
  ["id", "network_id", "peer_settings", "persistent_keepalive", "created_at", "updated_at"]

/-- The item of a listing shows what the printed link says. -/
structure Shows (item link : Json) : Prop where
  shared : ∀ name ∈ sharedFields, ∃ v, item.field? name = some v ∧ link.field? name = some v
  interfaces : ∃ vs, item.field? "peers" = some (.array vs) ∧
    link.peerFields? "interface_id" = some vs
  nodes : ∃ vs, item.field? "node_ids" = some (.array vs) ∧
    link.peerFields? "node_id" = some vs
  bytes : item.field? "bytes_transferred" = some (.int 0)

section Printing

theorem mapM_field_toRecord {name : String} {f : Peer → String}
    (h : ∀ p : Peer, p.toRecord.field? name = some (.text (f p))) (ps : List Peer) :
    (ps.map Peer.toRecord).mapM (Json.field? name) = some ((ps.map f).map Json.text) := by
  induction ps with
  | nil => rfl
  | cons p ps ih => simp [List.mapM_cons, h, ih]

theorem orNull_keepalive (k : Option Nat) :
    Json.orNull Json.int (k.map Int.ofNat) = Json.orNull (fun n : Nat => Json.int n) k := by
  cases k <;> rfl

/-- The summary of a link with ends is printed as the body of that link. -/
theorem LinkBody.Describes.shows {b : LinkBody} {l : Link} {e : Ends} (h : b.Describes l)
    (hends : l.ends = some e) : Shows l.summary.toWire b.write := by
  have hpeers : b.peers = some l.peers := by
    simp [h.peers, Link.peers, hends]
  have hlisted : b.write.field? "peer_settings" = some (peersToRecord l.peers) := by
    simp [LinkBody.write, Json.field?, List.lookup_cons, hpeers, Json.orNull]
  have hfields {name : String} {f : Peer → String}
      (hf : ∀ p : Peer, p.toRecord.field? name = some (.text (f p))) :
      b.write.peerFields? name = some ((l.peers.map f).map Json.text) := by
    rw [Json.peerFields?, hlisted]
    exact mapM_field_toRecord hf l.peers
  refine ⟨?_, ⟨_, rfl, hfields fun _ => rfl⟩, ⟨_, rfl, hfields fun _ => rfl⟩, rfl⟩
  intro name hname
  simp only [sharedFields, List.mem_cons, List.not_mem_nil, or_false] at hname
  rcases hname with rfl | rfl | rfl | rfl | rfl | rfl
  · exact ⟨_, rfl, by rw [Link.summary, h.id]; rfl⟩
  · exact ⟨_, rfl, by rw [Link.summary, h.network]; rfl⟩
  · exact ⟨_, rfl, hlisted⟩
  · exact ⟨_, rfl, by rw [Link.summary, h.keepalive, orNull_keepalive]; rfl⟩
  · exact ⟨_, rfl, by rw [Link.summary, h.created]; rfl⟩
  · exact ⟨_, rfl, by rw [Link.summary, h.updated]; rfl⟩

end Printing
end Wire

namespace Registry

/-- The whole listing has the summary of every entry. -/
theorem listing_all (r : Registry) : r.listing Filter.all = r.entries.map fun x => x.2.summary := by
  have hholds : (r.entries.filter fun x => Filter.all.holds x.2) = r.entries :=
    List.filter_eq_self.mpr fun _ _ => rfl
  rw [listing, hholds]

theorem Sound.nodup_ids {r : Registry} (hr : r.Sound) : r.ids.Nodup := by
  refine List.pairwise_map.mpr (List.Pairwise.imp ?_ hr.ascending)
  intro a b hlt heq
  rw [heq] at hlt
  exact String.lt_irrefl _ hlt

end Registry

namespace Service

open Wire

/-- The named field of the JSON value of an answer. -/
def Response.part? (name : String) (x : Response) : Option Json :=
  x.body?.bind (Json.field? name)

/-- The request restricts a listing in no way, and wants no page of it. -/
theorem Request.listRequest_of_no_query {r : Request} (h : r.query = []) :
    r.listRequest = .ok ⟨none, none, none, PageOptions.all⟩ := by
  simp only [listRequest, pageSize, queryValue?, h]
  rfl

namespace State

variable {s : State}

theorem perform_list_all (hs : s.registry.Sound) (now : Time.Timestamp) {r : Request}
    (hquery : r.query = []) :
    (s.perform now r .list).response =
      .page ⟨s.registry.entries.map fun x => x.2.summary, none,
        Note.ofIndex s.registry.index⟩ := by
  have hdemand : r.demand .list = .ok (.list ⟨none, none, none, PageOptions.all⟩) := by
    rw [Request.demand, Request.listRequest_of_no_query hquery]
    rfl
  rw [s.perform_of_demand now hdemand]
  change (s.list now _).response = _
  rw [list_of_sound hs, ← s.registry.listing_all]
  rfl

theorem perform_fetch_of_known {id : String} {l : Link} (hfind : s.registry.find? id = some l)
    {b : LinkBody} (hb : b.Describes l) (now : Time.Timestamp) (r : Request) :
    (s.perform now r (.fetch id)).response = .link ⟨b, Note.ofIndex s.registry.index⟩ := by
  have hdemand : r.demand (.fetch id) = .ok (.fetch id) := rfl
  rw [s.perform_of_demand now hdemand, react_fetch_of_known hfind,
    Response.ofLink_eq_link (LinkBody.ofLink_eq_ok_iff.mpr hb)]

/-- After any requests, the whole listing has one item for each stored id, in order, and the link
with the id is answered with the same values as its item and the same note. -/
theorem items_fetched_after (ids : IdSource) {interval : Option Int}
    (hinterval : ∀ k ∈ interval, 0 ≤ k) (rs : List (Time.Timestamp × Request)) :
    let s := ((start ids interval).serve rs).2
    ∃ items note,
      (∀ now r, r.query = [] →
        let x := (s.perform now r .list).response
        x.status = 200 ∧ x.part? "items" = some (.array items) ∧ x.part? "meta" = some note) ∧
      s.registry.ids.Nodup ∧
      items.map (Json.field? "id") = s.registry.ids.map (fun id => some (.text id)) ∧
      ∀ item ∈ items, ∃ id link, item.field? "id" = some (.text id) ∧ Shows item link ∧
        ∀ now r,
          let x := (s.perform now r (.fetch id)).response
          x.status = 200 ∧ x.part? "connection" = some link ∧ x.part? "meta" = some note := by
  intro s
  have hs : s.Answerable := (answerable_start ids hinterval).serve rs
  refine ⟨s.registry.entries.map fun x => x.2.summary.toWire,
    (Note.ofIndex s.registry.index).write, ?_, hs.registry.nodup_ids, ?_, ?_⟩
  · intro now r hquery x
    have hx : x = _ := s.perform_list_all hs.registry now hquery
    rw [hx]
    refine ⟨rfl, ?_, rfl⟩
    simp [Response.part?, Response.body?, ListAnswer.write, Json.field?, Function.comp_def]
  · rw [Registry.ids, List.map_map, List.map_map]
    refine List.map_congr_left fun x hx => ?_
    have hid : x.2.id = x.1 := (hs.registry.storedAs x hx).id_eq
    change some (Json.text x.2.id) = some (Json.text x.1)
    rw [hid]
  · intro item hitem
    obtain ⟨x, hx, rfl⟩ := List.mem_map.mp hitem
    have hstored := hs.registry.storedAs x hx
    obtain ⟨e, hends, -⟩ := hstored.joined
    obtain ⟨b, hb⟩ := LinkBody.exists_ofLink (hs.presentable x hx)
    have hdescribes := LinkBody.ofLink_eq_ok_iff.mp hb
    have hfind : s.registry.find? x.1 = some x.2 := hs.registry.ascending.lookup_of_mem hx
    refine ⟨x.1, b.write, ?_, hdescribes.shows hends, ?_⟩
    · rw [← hstored.id_eq]
      rfl
    · intro now r y
      have hy : y = _ := s.perform_fetch_of_known hfind hdescribes now r
      rw [hy]
      exact ⟨rfl, rfl, rfl⟩

/-- Two links that are stored in another order than that of their ids. -/
def trialWrites : List (Time.Timestamp × Request) :=
  [.storing "b" "i" "j", .storing "a" "j" "k"].map fun r => (Registry.trialTime, r)

theorem items_fetched_after_trial :
    let s := ((start (.numbered "conn" 1) (some 25)).serve trialWrites).2
    let r : Request := ⟨"GET", "/connections", [], none⟩
    (∀ k ∈ some (25 : Int), 0 ≤ k) ∧ s.registry.ids = ["a", "b"] ∧
      ∃ items, (s.perform Registry.trialTime r .list).response.part? "items" =
          some (.array items) ∧
        items.map (Json.field? "id") = [some (.text "a"), some (.text "b")] ∧
        ∀ item ∈ items, ∃ id link, item.field? "id" = some (.text id) ∧ Shows item link ∧
          (s.perform Registry.trialTime r (.fetch id)).response.part? "connection" =
            some link := by
  intro s r
  have hinterval : ∀ k ∈ some (25 : Int), 0 ≤ k := by simp
  have hids : s.registry.ids = ["a", "b"] := by decide +kernel
  obtain ⟨items, note, hlisted, -, hmap, hfetched⟩ :=
    items_fetched_after (.numbered "conn" 1) hinterval trialWrites
  obtain ⟨-, hitems, -⟩ := hlisted Registry.trialTime r rfl
  refine ⟨hinterval, hids, items, hitems, ?_, ?_⟩
  · rw [hmap, hids]
    rfl
  · intro item hitem
    obtain ⟨id, link, hid, hshows, hlink⟩ := hfetched item hitem
    obtain ⟨-, hpart, -⟩ := hlink Registry.trialTime r
    exact ⟨id, link, hid, hshows, hpart⟩

end State
end Service
end LinkRegistry
