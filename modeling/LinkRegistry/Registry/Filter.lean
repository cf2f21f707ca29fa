import LinkRegistry.Registry.Basic

/-!
# Filtered listings and pages

**Input.** A registry and what a listing is to show.

**Rule.** A filter has up to four conditions, and an empty or absent one does not
restrict.  They are checked in the order start of the id, network, interface, node, and
a question that a link refuses is refused by the listing.  A page starts at its token,
if there is one, and is cut after the given number of links; the first link that is cut
off names the next page.
-/

namespace LinkRegistry

/-- Conditions on listed links. -/
structure Filter where
  interface : Option String
  node : Option String
  network : Option String
  idStart : Option String
  deriving DecidableEq

namespace Filter

/-- No conditions. -/
def all : Filter := ⟨none, none, none, none⟩

/-- The value to compare with, if the condition restricts. -/
def restriction? : Option String → Option String
  | some "" => none
  | c => c

/-- The text begins with the other one. -/
def startsWith (s start : String) : Bool :=
  start.toList.isPrefixOf s.toList

/-- The id begins as it has to. -/
def admitsId (f : Filter) (l : Link) : Bool :=
  match restriction? f.idStart with
  | none => true
  | some s => startsWith l.id s

/-- The network is the right one. -/
def admitsNetwork (f : Filter) (l : Link) : Bool :=
  match restriction? f.network with
  | none => true
  | some n => l.network == n

/-- One of the ends is at the right interface. -/
def admitsInterface (f : Filter) (l : Link) : Except Fault Bool :=
  match restriction? f.interface with
  | none => .ok true
  | some i => l.reaches i

/-- One of the ends is on the right node. -/
def admitsNode (f : Filter) (l : Link) : Except Fault Bool :=
  match restriction? f.node with
  | none => .ok true
  | some n => (l.peerOnNode? n).map Option.isSome

/-- The link satisfies all conditions. -/
def admits (f : Filter) (l : Link) : Except Fault Bool :=
  if f.admitsId l && f.admitsNetwork l then do
    if ← f.admitsInterface l then f.admitsNode l else return false
  else .ok false

/-- Summaries of the admitted links, in order. -/
def summaries (f : Filter) : Entries → Except Fault (List Summary)
  | [] => .ok []
  | (_, l) :: rest => do
      let keep ← f.admits l
      let others ← f.summaries rest
      return if keep then l.summary :: others else others

end Filter

/-- Part of a listing. -/
structure Page where
  items : List Summary
  next : Option String
  deriving DecidableEq

namespace Page

/-- The summaries from a token on; an empty token starts at the beginning. -/
def dropBefore (token : Option String) (ss : List Summary) : List Summary :=
  match Filter.restriction? token with
  | none => ss
  | some t => ss.filter fun s => !(s.id < t)

/-- The first summaries, as many as a page holds. -/
def cut (size : Option Nat) (ss : List Summary) : Page :=
  match size with
  | none => ⟨ss, none⟩
  | some n => ⟨ss.take n, (ss[n]?).map Summary.id⟩

/-- The page of a listing that starts at a token. -/
def ofListing (token : Option String) (size : Option Nat) (ss : List Summary) : Page :=
  cut size (dropBefore token ss)

end Page
end LinkRegistry
