import LinkRegistry.Link.Record
import LinkRegistry.Wire.Scalar

/-!
# Parts of messages

**Input.** JSON values that describe routing, peers, links, summaries, options and
answers' notes.

**Rule.** On the wire a link lists any number of peers, and its keepalive interval is not
negative.  Turning it into a link requires two peers or none listed; turning it into a
patch requires nothing.  A link whose interval is negative has no wire form.

**Results.** A link that has a wire form is got back from it (`toLink_ofLink`).
-/

namespace LinkRegistry

section Domain

open Wire

namespace Routing

/-- Read routing from the wire. -/
def ofWire : Json → Reading Routing :=
  object fun j =>
    Reading.of Routing.mk
      |> Reading.arg (optional "allowed_ips" none (nullable (array text)) j)

end Routing

namespace Peer

/-- Read a peer from the wire. -/
def ofWire : Json → Reading Peer :=
  object fun j =>
    Reading.of Peer.mk
      |> Reading.arg (optional "node_id" "" text j)
      |> Reading.arg (optional "interface_id" "" text j)
      |> Reading.arg (optional "routing_rules" none (nullable Routing.ofWire) j)

end Peer

namespace Summary

/-- Read a summary from the wire. -/
def ofWire : Json → Reading Summary :=
  object fun j =>
    Reading.of Summary.mk
      |> Reading.arg (required "id" text j)
      |> Reading.arg (required "network_id" text j)
      |> Reading.arg (optional "node_ids" [] (array text) j)
      |> Reading.arg (optional "peers" [] (array text) j)
      |> Reading.arg (optional "peer_settings" [] (array Peer.ofWire) j)
      |> Reading.arg (optional "persistent_keepalive" none (nullable integer) j)
      |> Reading.arg (optional "bytes_transferred" 0 integer j)
      |> Reading.arg (optional "created_at" none (nullable time) j)
      |> Reading.arg (optional "updated_at" none (nullable time) j)

/-- Print a summary for the wire. -/
def toWire (s : Summary) : Json :=
  .object [("id", .text s.id), ("network_id", .text s.network),
    ("node_ids", Json.texts s.nodes), ("peers", Json.texts s.interfaces),
    ("peer_settings", peersToRecord s.peers),
    ("persistent_keepalive", Json.orNull Json.int s.keepalive),
    ("bytes_transferred", Json.int s.bytes),
    ("created_at", Json.orNull timeJson s.created),
    ("updated_at", Json.orNull timeJson s.updated)]

end Summary

end Domain

namespace Wire

/-- Wire form of a link. -/
structure LinkBody where
  id : String
  network : String
  peers : Option (List Peer)
  keepalive : Option Nat
  created : Option Time.Timestamp
  updated : Option Time.Timestamp
  deriving DecidableEq

namespace LinkBody

/-- Read the wire form of a link. -/
def read : Json → Reading LinkBody :=
  object fun j =>
    Reading.of LinkBody.mk
      |> Reading.arg (optional "id" "" text j)
      |> Reading.arg (optional "network_id" "" text j)
      |> Reading.arg (optional "peer_settings" none (nullable (array Peer.ofWire)) j)
      |> Reading.arg (optional "persistent_keepalive" none (nullable natural) j)
      |> Reading.arg (optional "created_at" none (nullable time) j)
      |> Reading.arg (optional "updated_at" none (nullable time) j)

/-- Print the wire form of a link. -/
def write (b : LinkBody) : Json :=
  .object [("id", .text b.id), ("network_id", .text b.network),
    ("peer_settings", Json.orNull peersToRecord b.peers),
    ("persistent_keepalive", Json.orNull (fun n : Nat => Json.int n) b.keepalive),
    ("created_at", Json.orNull timeJson b.created),
    ("updated_at", Json.orNull timeJson b.updated)]

/-- The ends that the listed peers make. -/
def ends (b : LinkBody) : Except Fault (Option Ends) :=
  match b.peers with
  | none => .ok none
  | some ps => (Ends.ofList ps).map some

/-- The link that the body describes. -/
def toLink (b : LinkBody) : Except Fault Link := do
  let ends ← b.ends
  return {
    id := b.id
    network := b.network
    ends
    keepalive := b.keepalive.map Int.ofNat
    created := b.created
    updated := b.updated }

/-- The patch that the body describes. -/
def toPatch (b : LinkBody) : Patch :=
  ⟨b.peers, b.keepalive.map Int.ofNat⟩

/-- The wire form of an interval. -/
def keepaliveOf : Option Int → Reading (Option Nat)
  | none => .ok none
  | some (.ofNat n) => .ok (some n)
  | some (.negSucc _) => Reading.inside (.field "persistent_keepalive") (Reading.fail .negative)

/-- The wire form of a link. -/
def ofLink (l : Link) : Reading LinkBody :=
  (keepaliveOf l.keepalive).map fun keepalive =>
    { id := l.id
      network := l.network
      peers := l.ends.map Ends.toList
      keepalive
      created := l.created
      updated := l.updated }

theorem toLink_ofLink {l : Link} {b : LinkBody} (h : ofLink l = .ok b) :
    b.toLink = .ok l := by
  obtain ⟨id, network, ends, keepalive, created, updated⟩ := l
  rcases keepalive with _ | n | n <;> simp [ofLink, keepaliveOf, Except.map] at h
  · subst h; cases ends <;> rfl
  · subst h; cases ends <;> rfl
  · cases h

end LinkBody

/-- Which page of a listing is wanted, and a beginning that ids must have. -/
structure PageOptions where
  idStart : Option String
  size : Option Nat
  token : Option String
  deriving DecidableEq

namespace PageOptions

/-- The whole listing. -/
def all : PageOptions := ⟨none, none, none⟩

/-- Read page options. -/
def read : Json → Reading PageOptions :=
  object fun j =>
    Reading.of PageOptions.mk
      |> Reading.arg (optional "prefix" none (nullable text) j)
      |> Reading.arg (optional "per_page" none (nullable positive) j)
      |> Reading.arg (optional "next_token" none (nullable text) j)

/-- Print page options. -/
def write (o : PageOptions) : Json :=
  .object [("prefix", Json.orNull .text o.idStart),
    ("per_page", Json.orNull (fun n : Nat => Json.int n) o.size),
    ("next_token", Json.orNull .text o.token)]

end PageOptions

/-- Options of a write, of which there are none. -/
structure WriteOptions where
  deriving DecidableEq

namespace WriteOptions

/-- Read write options. -/
def read : Json → Reading WriteOptions :=
  object fun _ => .ok {}

/-- Print write options. -/
def write (_ : WriteOptions) : Json :=
  .object []

end WriteOptions

/-- What every answer notes about the registry. -/
structure Note where
  lastIndex : Int
  knownLeader : Bool
  deriving DecidableEq

namespace Note

/-- The note of a registry with this index. -/
def ofIndex (index : Nat) : Note := ⟨index, true⟩

/-- The note that is meant if there is none. -/
def initial : Note := ofIndex 0

/-- Read a note. -/
def read : Json → Reading Note :=
  object fun j =>
    Reading.of Note.mk
      |> Reading.arg (optional "last_index" initial.lastIndex integer j)
      |> Reading.arg (optional "known_leader" initial.knownLeader boolean j)

/-- Print a note. -/
def write (n : Note) : Json :=
  .object [("last_index", Json.int n.lastIndex), ("known_leader", .bool n.knownLeader)]

end Note
end Wire
end LinkRegistry
