/-!
# Routing of one end

**Input.** The address ranges that one end of a link accepts, and changes to them.

**Rule.** Routing without a list leaves the ranges unset.  A change replaces the list
as a whole if it has one.  Allowing a range appends it, and an unset list counts as
empty.
-/

namespace LinkRegistry

/-- Address ranges routed to one end. -/
structure Routing where
  allowed : Option (List String)
  deriving DecidableEq

namespace Routing

/-- Routing without a list. -/
def unset : Routing := ⟨none⟩

/-- Routing with an empty list. -/
def empty : Routing := ⟨some []⟩

/-- The list of the change, or else the own one. -/
def merge (own change : Routing) : Routing :=
  ⟨change.allowed.or own.allowed⟩

/-- One more range at the end of the list. -/
def allow (ip : String) (own : Routing) : Routing :=
  ⟨some (own.allowed.getD [] ++ [ip])⟩

end Routing
end LinkRegistry
