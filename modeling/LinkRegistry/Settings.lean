import LinkRegistry.Log
import LinkRegistry.Text.LowerCase
import LinkRegistry.Text.Numeral
import LinkRegistry.Text.Quoted
import LinkRegistry.Text.UpperCase

/-!
# Settings

**Input.** The environment variables of the program.

**Rule.** A variable that should be an integer counts as unset if it is empty space.  The
port is read before the default keepalive interval.  The level of the log is kept in
upper case; it is looked up only when the log is configured, where a level that is given
and not empty takes precedence.  The log is configured only once: from then on its level
stays, also if no severity had the name.  Starting the program configures the log,
reports where it listens, and serves; nothing happens if it is not the main program.

**Results.** Once the log is configured, configuring it again changes nothing
(`configure_configure`).
-/

namespace LinkRegistry

/-- Why the program does not start. -/
inductive SettingsFault where
  /-- The variable holds no integer. -/
  | notInteger (variable_ value : String)
  /-- No severity has this name. -/
  | unknownLevel (name : String)
  deriving DecidableEq

namespace SettingsFault

/-- Wording of a fault. -/
def message : SettingsFault → String
  | notInteger name value => name ++ " must be an integer, got " ++ Text.quoted value
  | unknownLevel name => "Unknown level: " ++ Text.quoted name

end SettingsFault

/-- Environment variables. -/
abbrev Environment := List (String × String)

namespace Environment

/-- The integer in a variable, if it is set. -/
def integer? (env : Environment) (name : String) : Except SettingsFault (Option Int) :=
  match env.lookup name with
  | none => .ok none
  | some value =>
      if value.toList.all Text.isEmptySpace then .ok none
      else
        match Text.integer? value with
        | some n => .ok (some n)
        | none => .error (.notInteger name value)

end Environment

/-- How the program runs. -/
structure Settings where
  host : String
  port : Int
  logLevel : String
  defaultKeepalive : Option Int
  deriving DecidableEq

/-- Where the program serves, and the level that its server logs at. -/
structure Serving where
  host : String
  port : Int
  logLevel : String
  deriving DecidableEq

/-- State of the log. -/
structure LogState where
  /-- Severity from which lines are logged. -/
  level : Severity
  configured : Bool
  deriving DecidableEq

namespace LogState

/-- The log before it is configured. -/
def initial : LogState := ⟨.warning, false⟩

/-- The lines that are logged. -/
def logged (log : LogState) (ls : List LogLine) : List LogLine :=
  ls.filter fun l => log.level.rank ≤ l.severity.rank

end LogState

/-- What starting the program does. -/
structure Startup where
  lines : List LogLine
  log : LogState
  serving : Except SettingsFault (Option Serving)

namespace Settings

/-- Names of the variables that the settings are read from. -/
def variableNames : List String :=
  ["MESHLINK_HOST", "MESHLINK_PORT", "MESHLINK_LOG_LEVEL", "MESHLINK_DEFAULT_KEEPALIVE"]

/-- Read the settings. -/
def load (env : Environment) : Except SettingsFault Settings := do
  let port ← env.integer? "MESHLINK_PORT"
  let defaultKeepalive ← env.integer? "MESHLINK_DEFAULT_KEEPALIVE"
  return {
    host := (env.lookup "MESHLINK_HOST").getD "0.0.0.0"
    port := port.getD 8080
    logLevel := Text.upper ((env.lookup "MESHLINK_LOG_LEVEL").getD "INFO")
    defaultKeepalive }

/-- The severity of a level that is given, or else of the level of the settings. -/
def severity (s : Settings) (given : Option String) : Except SettingsFault Severity :=
  let name := match given with
    | none => s.logLevel
    | some "" => s.logLevel
    | some level => level
  match Severity.ofName? name with
  | some v => .ok v
  | none => .error (.unknownLevel name)

/-- Configure the log: what stands in the way, and the log afterwards. -/
def configure (s : Settings) (given : Option String) (log : LogState) :
    Except SettingsFault Unit × LogState :=
  if log.configured then (.ok (), log)
  else
    match s.severity given with
    | .ok level => (.ok (), ⟨level, true⟩)
    | .error f => (.error f, { log with configured := true })

/-- The line that reports where the program listens. -/
def listening (s : Settings) : LogLine :=
  ⟨.info, "meshlink.api", "[api] listening on " ++ s.host ++ ":" ++ toString s.port⟩

/-- Start the program. -/
def start (s : Settings) (isMain : Bool) (log : LogState) : Startup :=
  if isMain then
    match s.configure none log with
    | (.error f, log) => ⟨[], log, .error f⟩
    | (.ok _, log) =>
        ⟨log.logged [s.listening], log, .ok (some ⟨s.host, s.port, Text.lower s.logLevel⟩)⟩
  else ⟨[], log, .ok none⟩

theorem configured_configure (s : Settings) (given : Option String) (log : LogState) :
    (s.configure given log).2.configured = true := by
  unfold configure
  split
  · assumption
  · split <;> rfl

theorem configure_of_configured (s : Settings) (given : Option String) {log : LogState}
    (h : log.configured = true) : s.configure given log = (.ok (), log) := by
  simp [configure, h]

/-- Once the log is configured, configuring it again changes nothing. -/
theorem configure_configure (s t : Settings) (given other : Option String)
    (log : LogState) :
    t.configure other (s.configure given log).2 = (.ok (), (s.configure given log).2) :=
  configure_of_configured t other (configured_configure s given log)

end Settings
end LinkRegistry
