import PublicationIndicator.Cli.Arguments
import PublicationIndicator.Json.Writer
import PublicationIndicator.ProgramError
import PublicationIndicator.Report.Score
import PublicationIndicator.Settings.EnvFile
import PublicationIndicator.Settings.LogFilter
import PublicationIndicator.Wire.Organization
import PublicationIndicator.Wire.Points

/-!
# PublicationIndicator.Cli.Run — what the program does

A command ends in a report, in an error, or with the service ready to listen.  What it needs to read
of files is a parameter, so that the same program runs on files given as a list and on those of a
machine.
-/

namespace PublicationIndicator.Cli

/-- How the program ends. -/
inductive Outcome where
  /-- It has reported something. -/
  | report (text : String)
  /-- It has given up. -/
  | failure (e : ProgramError)
  /-- Its arguments are in disorder. -/
  | usage
  /-- The service may listen. -/
  | listening (settings : Settings) (endpoint : String)

/-- Gives the text of a file, if it is there. -/
abbrev FileReader (m : Type → Type) := String → m (Option String)

/-- A path without the parts that stay where they are. -/
def plainPath (path : String) : String :=
  if path.startsWith "/" then path
  else "/".intercalate ((path.splitOn "/").filter (fun part => part ≠ "" ∧ part ≠ "."))

/-- Reads files that are given with their names. -/
def givenFiles (files : List (String × String)) : FileReader Id := fun path =>
  (files.find? (fun f => f.1 == plainPath path)).map (·.2)

/-- What the program does until it gives up. -/
abbrev Action (m : Type → Type) := ExceptT ProgramError m

variable {m : Type → Type} [Monad m]

/-- Reads a document from a file. -/
def readDocument {α : Type} (read : FileReader m) (d : Decoder α) (path : String) : Action m α := do
  match ← ExceptT.lift (read path) with
  | none => throw .missingFile
  | some text =>
    match d.ofText text with
    | .ok a => return a
    | .error _ => throw .document

/-- Reads organization records from a file, or takes the sample if there is no file. -/
def readRegistry (read : FileReader m) : Option String → Action m OrganizationRegistry
  | some path => do
    return .ofOrganizations (← readDocument read (.list Organization.decoder) path)
  | none => return .sample

/-- Lines with a line end behind each. -/
def textOfLines (lines : List String) : String := String.join (lines.map (· ++ "\n"))

/-! ### The commands -/

/-- The points of a publication in the trees of a registry. -/
def scoreFacts (facts : PublicationFacts) (registry : OrganizationRegistry) :
    Except ProgramError PointEvaluation :=
  (scoreThrough registry.fetch facts).mapError fun e => .candidate (.ofPointError e)

/-- Scores a publication. -/
def score (read : FileReader m) (o : ScoreOptions) : Action m String := do
  let facts ← readDocument read PublicationFacts.decoder o.facts
  let registry ← readRegistry read o.organizations
  let e ← MonadExcept.ofExcept (scoreFacts facts registry)
  return if o.asJson then e.toJson.pretty ++ "\n"
    else textOfLines (Report.scoreLines facts.publication e)

/-- Plays a scenario, or all of them. -/
def demo (time : Instant) (scenario : Option Report.Scenario) : Action m String :=
  match Report.demoLines time (scenario.elim Report.Scenario.all ([·])) with
  | .error e => throw (.candidate e)
  | .ok lines => return textOfLines lines

/-- The settings with what the options say in place of what the variables say. -/
def override (s : Settings) (o : ServeOptions) : Settings :=
  { s with host := o.host.getD s.host, port := o.port.getD s.port }

/-- The settings must say which events to log. -/
def checkLogFilter (s : Settings) : Except ProgramError Unit :=
  if LogFilter.isFilter s.logFilter then .ok () else .error (.logFilter s.logFilter)

/-- Sets the service up, until it may listen.  Variables of the file `.env` count where they are not
set otherwise. -/
def serve (read : FileReader m) (vs : Variables) (o : ServeOptions) :
    Action m (Settings × String) := do
  let file ← ExceptT.lift (read ".env")
  let vs := vs ++ EnvFile.assignments (file.getD "")
  let settings ← MonadExcept.ofExcept ((Settings.load vs).mapError .settings)
  let settings := override settings o
  MonadExcept.ofExcept (checkLogFilter settings)
  let _ ← readRegistry read settings.organizationsPath
  let endpoint ← MonadExcept.ofExcept (settings.endpoint.mapError .settings)
  return (settings, endpoint)

/-- What becomes of an action. -/
def finish {α : Type} (f : α → Outcome) (action : Action m α) : m Outcome := do
  match ← action.run with
  | .ok a => return f a
  | .error e => return .failure e

/-- The name of the program with its version. -/
def versionText : String := "NVI Candidate Engine 0.1.0\n"

/-- Carries out a command. -/
def Command.run (read : FileReader m) (vs : Variables) (time : Instant) : Command → m Outcome
  | .serve o => finish (fun r => .listening r.1 r.2) (Cli.serve read vs o)
  | .score o => finish .report (Cli.score read o)
  | .demo scenario => finish .report (Cli.demo time scenario)
  | .version => return .report versionText

/-- What the program does with its arguments. -/
def run (read : FileReader m) (vs : Variables) (time : Instant) (args : List String) : m Outcome :=
  match Command.ofArguments? args with
  | some c => c.run read vs time
  | none => return .usage

/-! ### Outcomes -/

/-- The error as it is reported. -/
def errorText (e : ProgramError) : String := "application error: " ++ e.message ++ "\n"

/-- The code with which the program ends. -/
def Outcome.exitCode : Outcome → Nat
  | report _ | listening _ _ => 0
  | failure _ => 1
  | usage => 2

end PublicationIndicator.Cli
