import LinkRegistry.Settings

/-!
# Command line

**Input.** The environment of the process.

**Rule.** The program reads its settings, configures the log, and reports on standard error
where it listens.  A setting that is at fault is reported there too, and then the exit
code is 1.  What carries requests to and from the service stands outside of the program,
and answers them with `Service.State.handle`.
-/

namespace LinkRegistry

/-- The variables of the settings that are set for the process. -/
def Environment.current : IO Environment :=
  Settings.variableNames.filterMapM fun name => do
    return (← IO.getEnv name).map fun value => (name, value)

/-- Report a fault; the exit code for it. -/
def SettingsFault.report (f : SettingsFault) : IO UInt32 := do
  IO.eprintln f.message
  return 1

/-- Report what starting did; the exit code for it. -/
def Startup.report (s : Startup) : IO UInt32 := do
  for line in s.lines do
    IO.eprintln line.render
  match s.serving with
  | .error f => f.report
  | .ok _ => return 0

end LinkRegistry

/-- Start the program. -/
def main : IO UInt32 := do
  match LinkRegistry.Settings.load (← LinkRegistry.Environment.current) with
  | .error f => f.report
  | .ok s => (s.start true .initial).report
