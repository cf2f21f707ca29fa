import LinkRegistry.Fault
import LinkRegistry.Log

/-!
# Events of a registry

**Input.** What a registry reports about its work.

**Rule.** Every write reports what it did and the index it reached; a link that is not
sound is reported with its fault, as a warning.
-/

namespace LinkRegistry

/-- A reported fact. -/
inductive Event where
  /-- The link is not sound. -/
  | rejected (id : String) (fault : Fault)
  /-- The link is stored under an id that was not stored before. -/
  | created (id : String) (index : Nat)
  /-- The link replaces the one with its id. -/
  | updated (id : String) (index : Nat)
  /-- The link was changed. -/
  | patched (id : String) (index : Nat)
  /-- The range was allowed at both ends. -/
  | allowed (ip id : String) (index : Nat)
  /-- That many links were deleted. -/
  | deleted (count index : Nat)
  deriving DecidableEq

namespace Event

/-- The part of the line that names the index. -/
def indexNote (index : Nat) : String :=
  " (index=" ++ toString index ++ ")"

/-- How much the event matters. -/
def severity : Event → Severity
  | rejected _ _ => .warning
  | _ => .info

/-- Wording of an event. -/
def text : Event → String
  | rejected id fault => "[store] rejected connection " ++ id ++ ": " ++ fault.message
  | created id n => "[store] created connection " ++ id ++ indexNote n
  | updated id n => "[store] updated connection " ++ id ++ indexNote n
  | patched id n => "[store] patched connection " ++ id ++ indexNote n
  | allowed ip id n => "[store] allowed " ++ ip ++ " on connection " ++ id ++ indexNote n
  | deleted count n => "[store] deleted " ++ toString count ++ " connection(s)" ++ indexNote n

/-- The event as a line of the log. -/
def toLogLine (e : Event) : LogLine :=
  ⟨e.severity, "meshlink.store", e.text⟩

end Event
end LinkRegistry
