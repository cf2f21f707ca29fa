import LinkRegistry.Fault
import LinkRegistry.Link.Routing

/-!
# Peers and the two ends of a link

**Input.** Settings of the interfaces that a link joins.

**Rule.** A peer names a node and one of its interfaces, and may have routing.  A change
replaces each name that it does not leave empty, and its routing is merged into the own
one.  A link has exactly two ends; their order is only the order of storage.

**Results.** The list of two ends is read back (`ofList_toList`).
-/

namespace LinkRegistry

/-- One side of a link. -/
structure Peer where
  node : String
  interface : String
  routing : Option Routing
  deriving DecidableEq

namespace Peer

/-- A peer that names nothing. -/
def blank : Peer := ⟨"", "", none⟩

/-- The name, unless it is empty. -/
def nameOr (fallback name : String) : String :=
  if name = "" then fallback else name

/-- Merge routing where both sides may have none. -/
def mergeRouting : Option Routing → Option Routing → Option Routing
  | own, none => own
  | none, some change => some change
  | some own, some change => some (own.merge change)

/-- The peer after a change. -/
def merge (own change : Peer) : Peer where
  node := nameOr own.node change.node
  interface := nameOr own.interface change.interface
  routing := mergeRouting own.routing change.routing

/-- The peer with routing, an empty list if it had none. -/
def withRouting (p : Peer) : Peer :=
  { p with routing := some (p.routing.getD Routing.empty) }

/-- The peer with one more allowed range, if it has routing. -/
def allow (ip : String) (p : Peer) : Peer :=
  { p with routing := p.routing.map (Routing.allow ip) }

end Peer

/-- The two sides of a link, in storage order. -/
structure Ends where
  first : Peer
  second : Peer
  deriving DecidableEq

namespace Ends

/-- The two listed peers. -/
def ofList : List Peer → Except Fault Ends
  | [a, b] => .ok ⟨a, b⟩
  | _ => .error .endCount

/-- The two peers as a list. -/
def toList (e : Ends) : List Peer :=
  [e.first, e.second]

/-- The ends in the other order. -/
def swap (e : Ends) : Ends := ⟨e.second, e.first⟩

/-- The same change at both ends. -/
def map (f : Peer → Peer) (e : Ends) : Ends := ⟨f e.first, f e.second⟩

/-- Merge a peer into the first end with its interface, if there is one. -/
def mergeEntry (e : Ends) (p : Peer) : Ends :=
  if e.first.interface = p.interface then { e with first := e.first.merge p }
  else if e.second.interface = p.interface then { e with second := e.second.merge p }
  else e

/-- Merge listed peers in turn. -/
def mergeAll (e : Ends) (ps : List Peer) : Ends :=
  ps.foldl mergeEntry e

@[simp] theorem ofList_toList (e : Ends) : ofList e.toList = .ok e := rfl

theorem ofList_eq_ok_iff {ps : List Peer} {e : Ends} :
    ofList ps = .ok e ↔ ps = e.toList := by
  constructor
  · intro h
    match ps, h with
    | [a, b], h => cases h; rfl
  · rintro rfl
    rfl

end Ends
end LinkRegistry
