import Relay.Simulation.Alias

/-!
# The program

Rehearses the service that the environment describes: its settings are read, it is started against
servers that have nothing to relay, and it is stopped once its workers have found that out. What it
would have told on the way goes to standard output, and why it did not start to standard error. Time
stands still at the beginning of 1970.
-/

namespace Relay

/-- The names of the settings of the program. -/
def settingNames : List String :=
  [Service.styleKey, Service.filterKey] ++ Settings.keys ++ Database.Location.keys ++
    Tuning.keys

/-- The settings that the environment holds. -/
def readSettings : IO (List (String × String)) :=
  settingNames.filterMapM fun name => do
    return (← IO.getEnv name).map fun value => (name, value)

/-- The rehearsal of the program with some settings, its instance named after a number if it has no
name. -/
def rehearse (settings : List (String × String)) (number : Nat) : Simulation.Ending :=
  let stamp := Simulation.Alias.stamp .epoch (Tuning.freshName (Uuid.ofNat number)) none
  Simulation.program stamp (fun name => settings.lookup name) {}

end Relay

def main : IO UInt32 := do
  let ending := Relay.rehearse (← Relay.readSettings) (← IO.rand 0 (1 <<< 128 - 1))
  for line in ending.lines do
    (line.write ending.style Relay.Instant.epoch.text).forM fun text => IO.println text
  ending.report.forM fun text => IO.eprintln text
  return ending.status.toUInt32
