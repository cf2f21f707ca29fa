import LinkRegistry.Link.Peer

/-!
# Links

**Input.** A link between two interfaces of a mesh network, and questions about it.

**Rule.** A link has an id, a network, possibly its two ends, possibly an interval of
keepalives in seconds, and possibly the times of its creation and of its last change.
It is sound if it has ends at different interfaces.  Questions about the ends are
refused as long as there are none; where both ends fit, the first one answers.

**Results.** `validate` refuses exactly the links without ends and the links that join an
interface to itself (`validate_eq_ok_iff`).  `allow` refuses exactly the links without ends
and the links with an end that has no routing (`allow_eq_ok_iff`).
-/

namespace LinkRegistry

/-- A link between two interfaces. -/
structure Link where
  id : String
  network : String
  ends : Option Ends
  keepalive : Option Int
  created : Option Time.Timestamp
  updated : Option Time.Timestamp
  deriving DecidableEq

/-- What a listing shows of a link. -/
structure Summary where
  id : String
  network : String
  nodes : List String
  interfaces : List String
  peers : List Peer
  keepalive : Option Int
  bytes : Int
  created : Option Time.Timestamp
  updated : Option Time.Timestamp
  deriving DecidableEq

/-- Both texts, the smaller one first. -/
def sortedPair (a b : String) : String × String :=
  if b < a then (b, a) else (a, b)

namespace Link

/-- A new link, not yet between any interfaces. -/
def create (id network : String) (now : Time.Timestamp) : Link :=
  ⟨id, network, none, none, some now, none⟩

/-- The ends, of which there must be some. -/
def endsOrFault (l : Link) : Except Fault Ends :=
  match l.ends with
  | some e => .ok e
  | none => .error .noEnds

/-- Check that the link is sound. -/
def validate (l : Link) : Except Fault Unit :=
  match l.ends with
  | none => .error .endCount
  | some e =>
      if e.first.interface = e.second.interface then .error .selfLoop else .ok ()

/-- Interfaces of both ends, ascending. -/
def interfacePair (l : Link) : Except Fault (String × String) := do
  let e ← l.endsOrFault
  return sortedPair e.first.interface e.second.interface

/-- Nodes of both ends, ascending. -/
def nodePair (l : Link) : Except Fault (String × String) := do
  let e ← l.endsOrFault
  return sortedPair e.first.node e.second.node

/-- The end on a node. -/
def peerOnNode? (l : Link) (node : String) : Except Fault (Option Peer) := do
  let e ← l.endsOrFault
  return if e.first.node = node then some e.first
    else if e.second.node = node then some e.second
    else none

/-- The end at an interface. -/
def peerAt? (l : Link) (interface : String) : Except Fault (Option Peer) := do
  let e ← l.endsOrFault
  return if e.first.interface = interface then some e.first
    else if e.second.interface = interface then some e.second
    else none

/-- The end opposite to the one at an interface. -/
def peerOpposite? (l : Link) (interface : String) : Except Fault (Option Peer) := do
  let e ← l.endsOrFault
  return if e.first.interface = interface then some e.second
    else if e.second.interface = interface then some e.first
    else none

/-- One of the ends is at the interface. -/
def reaches (l : Link) (interface : String) : Except Fault Bool := do
  let e ← l.endsOrFault
  return interface = e.first.interface || interface = e.second.interface

/-- Each of the two interfaces is at one of the ends, not necessarily at different ones. -/
def reachesBoth (l : Link) (a b : String) : Except Fault Bool := do
  if ← l.reaches a then l.reaches b else return false

/-- The link with routing at both ends. -/
def withRouting (l : Link) : Link :=
  { l with ends := l.ends.map (Ends.map Peer.withRouting) }

/-- The link with one more range allowed at both ends, which must have routing. -/
def allow (l : Link) (ip : String) : Except Fault Link := do
  let e ← l.endsOrFault
  match e.toList.find? fun p => p.routing.isNone with
  | some p => throw (.noRouting p.interface)
  | none => return { l with ends := some (e.map (Peer.allow ip)) }

/-- The peers of the link, none if it has no ends. -/
def peers (l : Link) : List Peer :=
  match l.ends with
  | some e => e.toList
  | none => []

/-- What a listing shows. -/
def summary (l : Link) : Summary where
  id := l.id
  network := l.network
  nodes := l.peers.map Peer.node
  interfaces := l.peers.map Peer.interface
  peers := l.peers
  keepalive := l.keepalive
  bytes := 0
  created := l.created
  updated := l.updated

/-- The link with its ends in the other order. -/
def swap (l : Link) : Link :=
  { l with ends := l.ends.map Ends.swap }

/-- Both are absent, or both are the same time. -/
def sameTime : Option Time.Timestamp → Option Time.Timestamp → Bool
  | none, none => true
  | some a, some b => a.same b
  | _, _ => false

/-- Equality of links, where equal instants may have different offsets. -/
def same (a b : Link) : Bool :=
  a.id == b.id && a.network == b.network && a.ends == b.ends &&
    a.keepalive == b.keepalive && sameTime a.created b.created &&
    sameTime a.updated b.updated

theorem validate_eq_ok_iff (l : Link) :
    l.validate = .ok () ↔
      ∃ e, l.ends = some e ∧ e.first.interface ≠ e.second.interface := by
  unfold validate
  cases l.ends with
  | none => simp
  | some e => by_cases h : e.first.interface = e.second.interface <;> simp [h]

theorem validate_of_no_ends {l : Link} (h : l.ends = none) : l.validate = .error .endCount := by
  unfold validate
  rw [h]

theorem validate_of_same {l : Link} {e : Ends} (h : l.ends = some e)
    (hsame : e.first.interface = e.second.interface) : l.validate = .error .selfLoop := by
  unfold validate
  rw [h]
  exact if_pos hsame

section Allow

variable {l changed : Link} {e : Ends} {ip : String}

theorem allow_of_no_ends (he : l.ends = none) (ip : String) : l.allow ip = .error .noEnds := by
  simp only [allow, endsOrFault, he, bind, Except.bind]

theorem allow_of_no_routing {p : Peer} (he : l.ends = some e)
    (hp : (e.toList.find? fun p => p.routing.isNone) = some p) (ip : String) :
    l.allow ip = .error (.noRouting p.interface) := by
  simp only [allow, endsOrFault, he, bind, Except.bind, hp]
  rfl

theorem allow_of_routing (he : l.ends = some e)
    (hp : (e.toList.find? fun p => p.routing.isNone) = none) (ip : String) :
    l.allow ip = .ok { l with ends := some (e.map (Peer.allow ip)) } := by
  simp only [allow, endsOrFault, he, bind, Except.bind, hp]
  rfl

/-- A range is allowed exactly if both ends have routing. -/
theorem allow_eq_ok_iff :
    l.allow ip = .ok changed ↔ ∃ e, l.ends = some e ∧ (∀ p ∈ e.toList, p.routing ≠ none) ∧
      { l with ends := some (e.map (Peer.allow ip)) } = changed := by
  cases he : l.ends with
  | none => simp [allow_of_no_ends he]
  | some e =>
      cases hp : e.toList.find? fun p => p.routing.isNone with
      | none =>
          have hrouting : ∀ p ∈ e.toList, p.routing ≠ none := by simpa using hp
          simpa [allow_of_routing he hp] using fun _ => hrouting
      | some p =>
          have hmissing : p.routing = none := by simpa using List.find?_some hp
          have hmem : p ∈ e.toList := List.mem_of_find?_eq_some hp
          simp only [allow_of_no_routing he hp, reduceCtorEq, false_iff, not_exists, not_and]
          rintro f ⟨⟩ hrouting
          exact absurd hmissing (hrouting p hmem)

end Allow

end Link
end LinkRegistry
