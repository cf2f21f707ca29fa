import LinkRegistry.Link.Basic

/-!
# Partial changes of a link

**Input.** A link and a patch: listed peers, a keepalive interval, both of which may be
absent.

**Rule.** Absent parts change nothing.  A link with ends merges each listed peer into
the end with the same interface, and drops peers that fit no end.  A link without ends
takes the listed peers as its ends, which then have to be two.  Id, network and times
never change.
-/

namespace LinkRegistry

/-- A partial change. -/
structure Patch where
  peers : Option (List Peer)
  keepalive : Option Int
  deriving DecidableEq

namespace Patch

/-- The patch that carries the ends and the interval of a link. -/
def ofLink (l : Link) : Patch :=
  ⟨l.ends.map Ends.toList, l.keepalive⟩

end Patch

namespace Link

/-- The ends after a patch lists peers. -/
def mergeEnds : Option Ends → Option (List Peer) → Except Fault (Option Ends)
  | own, none => .ok own
  | some e, some ps => .ok (some (e.mergeAll ps))
  | none, some ps => (Ends.ofList ps).map some

/-- The link after a patch. -/
def merge (l : Link) (p : Patch) : Except Fault Link := do
  let ends ← mergeEnds l.ends p.peers
  return { l with ends, keepalive := p.keepalive.or l.keepalive }

end Link
end LinkRegistry
