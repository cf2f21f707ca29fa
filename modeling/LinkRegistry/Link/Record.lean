import LinkRegistry.Json
import LinkRegistry.Link.Patch

/-!
# Links as records

**Input.** JSON objects that describe links, and links.

**Rule.** Fields are read by name and unknown ones do not matter.  A field that is
missing, or holds a value of another kind, reads as null; a null name reads as the empty
text.  Peers that are listed have to be two.  Then come the times of creation and of
change, and the first fault decides.  Printing writes every field.

**Results.** Printed routing and peers read back (`Routing.ofRecord_toRecord`,
`Peer.ofRecord_toRecord`).
-/

namespace LinkRegistry

namespace Json

/-- A text, or else the empty one. -/
def textOrEmpty : Json → String
  | text s => s
  | _ => ""

/-- The items of an array. -/
def items? : Json → Option (List Json)
  | array xs => some xs
  | _ => none

/-- A whole number. -/
def int? : Json → Option Int
  | int n => some n
  | _ => none

/-- A time that is still to be read. -/
def rawTime : Json → Time.RawTime
  | text s => .text s
  | int n => .number n
  | bool b => .truth b
  | _ => .absent

end Json

namespace Routing

/-- Read routing. -/
def ofRecord (j : Json) : Routing :=
  ⟨(j.fieldOrNull "allowed_ips").items?.map (·.map Json.textOrEmpty)⟩

/-- Print routing. -/
def toRecord (r : Routing) : Json :=
  .object [("allowed_ips", Json.orNull Json.texts r.allowed)]

@[simp] theorem ofRecord_toRecord (r : Routing) : ofRecord r.toRecord = r := by
  obtain ⟨_ | ips⟩ := r <;>
    simp [ofRecord, toRecord, Json.fieldOrNull, Json.field?, Json.orNull, Json.texts,
      Json.items?, Json.textOrEmpty, Function.comp_def]

end Routing

namespace Peer

/-- Read the routing of a peer; anything but an object means none. -/
def routingOfRecord : Json → Option Routing
  | .object fields => some (Routing.ofRecord (.object fields))
  | _ => none

/-- Read a peer. -/
def ofRecord (j : Json) : Peer where
  node := (j.fieldOrNull "node_id").textOrEmpty
  interface := (j.fieldOrNull "interface_id").textOrEmpty
  routing := routingOfRecord (j.fieldOrNull "routing_rules")

/-- Print a peer. -/
def toRecord (p : Peer) : Json :=
  .object [("node_id", .text p.node), ("interface_id", .text p.interface),
    ("routing_rules", Json.orNull Routing.toRecord p.routing)]

@[simp] theorem ofRecord_toRecord (p : Peer) : ofRecord p.toRecord = p := by
  obtain ⟨node, interface, _ | r⟩ := p
  · rfl
  · have read : ofRecord (toRecord ⟨node, interface, some r⟩) =
        ⟨node, interface, some (Routing.ofRecord r.toRecord)⟩ := rfl
    rw [read, Routing.ofRecord_toRecord]

end Peer

/-- Read a time of a record. -/
def timeOfRecord (j : Json) : Except Fault (Option Time.Timestamp) :=
  let raw := j.rawTime
  match raw.readable? with
  | none => .ok none
  | some s =>
      match Time.Timestamp.ofText? s with
      | some t => .ok (some t)
      | none => .error (.badTime raw)

/-- Print a time of a record. -/
def timeToRecord (t : Option Time.Timestamp) : Json :=
  Json.orNull (fun t => .text t.text) t

/-- Read the ends of a link; anything but an array means none. -/
def endsOfRecord (j : Json) : Except Fault (Option Ends) :=
  match j.items? with
  | none => .ok none
  | some items => (Ends.ofList (items.map Peer.ofRecord)).map some

/-- Print peers. -/
def peersToRecord (ps : List Peer) : Json :=
  .array (ps.map Peer.toRecord)

namespace Link

/-- Read a link. -/
def ofRecord (j : Json) : Except Fault Link := do
  let ends ← endsOfRecord (j.fieldOrNull "peer_settings")
  let created ← timeOfRecord (j.fieldOrNull "created_at")
  let updated ← timeOfRecord (j.fieldOrNull "updated_at")
  return {
    id := (j.fieldOrNull "id").textOrEmpty
    network := (j.fieldOrNull "network_id").textOrEmpty
    ends
    keepalive := (j.fieldOrNull "persistent_keepalive").int?
    created
    updated }

/-- Print a link. -/
def toRecord (l : Link) : Json :=
  .object [("id", .text l.id), ("network_id", .text l.network),
    ("peer_settings", Json.orNull (fun e => peersToRecord e.toList) l.ends),
    ("persistent_keepalive", Json.orNull Json.int l.keepalive),
    ("created_at", timeToRecord l.created), ("updated_at", timeToRecord l.updated)]

end Link

namespace Summary

/-- Print a summary. -/
def toRecord (s : Summary) : Json :=
  .object [("id", .text s.id), ("network_id", .text s.network),
    ("node_ids", Json.texts s.nodes), ("peers", Json.texts s.interfaces),
    ("peer_settings", peersToRecord s.peers),
    ("persistent_keepalive", Json.orNull Json.int s.keepalive),
    ("bytes_transferred", Json.int s.bytes),
    ("created_at", timeToRecord s.created), ("updated_at", timeToRecord s.updated)]

end Summary

namespace Patch

/-- Read a patch. -/
def ofRecord (j : Json) : Patch where
  peers := (j.fieldOrNull "peer_settings").items?.map (·.map Peer.ofRecord)
  keepalive := (j.fieldOrNull "persistent_keepalive").int?

/-- Print a patch. -/
def toRecord (p : Patch) : Json :=
  .object [("peer_settings", Json.orNull peersToRecord p.peers),
    ("persistent_keepalive", Json.orNull Json.int p.keepalive)]

end Patch
end LinkRegistry
