/-!
# Log lines

**Input.** A severity, the part of the program that speaks, and a text.

**Rule.** Severities are ranked by numbers, and some have two names.  A line shows the
severity by its main name.

**Results.** The main name of a severity names it (`Severity.ofName?_name`).
-/

namespace LinkRegistry

/-- How much a log line matters. -/
inductive Severity where
  | notset
  | debug
  | info
  | warning
  | error
  | critical
  deriving DecidableEq

namespace Severity

/-- The number by which severities are ranked. -/
def rank : Severity → Nat
  | notset => 0
  | debug => 10
  | info => 20
  | warning => 30
  | error => 40
  | critical => 50

/-- Main name. -/
def name : Severity → String
  | notset => "NOTSET"
  | debug => "DEBUG"
  | info => "INFO"
  | warning => "WARNING"
  | error => "ERROR"
  | critical => "CRITICAL"

/-- The severity with this name. -/
def ofName? : String → Option Severity
  | "NOTSET" => some notset
  | "DEBUG" => some debug
  | "INFO" => some info
  | "WARNING" => some warning
  | "WARN" => some warning
  | "ERROR" => some error
  | "CRITICAL" => some critical
  | "FATAL" => some critical
  | _ => none

@[simp] theorem ofName?_name (s : Severity) : ofName? s.name = some s := by
  cases s <;> rfl

end Severity

/-- A line of the log. -/
structure LogLine where
  severity : Severity
  speaker : String
  text : String
  deriving DecidableEq

namespace LogLine

/-- The written line. -/
def render (l : LogLine) : String :=
  l.severity.name ++ " " ++ l.speaker ++ " " ++ l.text

end LogLine
end LinkRegistry
