import PublicationIndicator.Cli.Run
import PublicationIndicator.Instant.Text

/-!
# PublicationIndicator.Main — the program
-/

open PublicationIndicator

/-- The text of a file, if it is there. -/
def readFile? (path : String) : IO (Option String) := do
  try
    return some (← IO.FS.readFile path)
  catch _ => return none

/-- The variables that the program looks at. -/
def variableNames : List String :=
  ["APP_ENV", "APP_HOST", "APP_PORT", "APP_LOG_LEVEL", "NVI_MAX_RECALCULATION_ATTEMPTS",
    "NVI_ORGANIZATIONS_PATH"]

/-- The variables that are set. -/
def setVariables : IO Variables :=
  variableNames.filterMapM fun name => do return (← IO.getEnv name).map fun value => (name, value)

/-- The date of what the demo decides. -/
def demoTime : Instant where
  date := ⟨2025, 1, 1, by decide, by decide⟩
  minute := ⟨0, by decide⟩
  second := ⟨0, by decide⟩
  nano := ⟨0, by decide⟩

/-- Carries out what the arguments say. -/
def main (args : List String) : IO UInt32 := do
  let outcome ← Cli.run readFile? (← setVariables) demoTime args
  match outcome with
  | .report text => IO.print text
  | .failure e => IO.eprint (Cli.errorText e)
  | .usage => IO.eprintln "usage: [serve | score --facts FILE | demo]"
  | .listening _ endpoint => IO.eprintln ("ready to listen at " ++ endpoint)
  return UInt32.ofNat outcome.exitCode
