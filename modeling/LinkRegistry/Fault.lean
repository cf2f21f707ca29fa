import LinkRegistry.Time.RawTime

/-!
# Faults

**Input.** The reasons for which an operation on links is refused.

**Rule.** Each fault is a cause with what the cause is about.  Its message is a function
of the cause alone.
-/

namespace LinkRegistry

/-- Why an operation is refused. -/
inductive Fault where
  /-- The number of ends is not two. -/
  | endCount
  /-- Both ends are the same interface. -/
  | selfLoop
  /-- The link has no ends to look at. -/
  | noEnds
  /-- The end at this interface has no routing. -/
  | noRouting (interface : String)
  /-- No link has this id. -/
  | unknownId (id : String)
  /-- The link to store has no id. -/
  | noId
  /-- The value denotes no timestamp. -/
  | badTime (raw : Time.RawTime)
  deriving DecidableEq

namespace Fault

/-- Wording of a fault. -/
def message : Fault → String
  | endCount => "a connection must specify exactly two interfaces"
  | selfLoop => "can't connect an interface to itself"
  | noEnds => "connection has no peer settings"
  | noRouting interface =>
      "routing rules for interface " ++ Text.quoted interface ++ " are not initialized"
  | unknownId id => "connection " ++ Text.quoted id ++ " not found"
  | noId => "connection id is required"
  | badTime raw => "Invalid timestamp: " ++ raw.literal

end Fault
end LinkRegistry
