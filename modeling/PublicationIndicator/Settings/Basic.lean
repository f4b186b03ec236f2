import PublicationIndicator.Settings.Address
import PublicationIndicator.Text.Blank

/-!
# PublicationIndicator.Settings.Basic — how the program is set up

Settings come from named variables.  Each has a value of its own where no variable says otherwise.
-/

namespace PublicationIndicator

open Text

/-- The stages in which the program runs. -/
inductive Stage where
  | development
  | test
  | production
deriving DecidableEq

namespace Stage

/-- The stage's name. -/
def label : Stage → String
  | development => "Development"
  | test => "Test"
  | production => "Production"

/-- The stage that a name stands for, in capitals or not; other names stand for development. -/
def ofName (name : String) : Stage :=
  let name := (trim name).toLower
  if name = "prod" ∨ name = "production" then production
  else if name = "test" ∨ name = "ci" then test
  else development

end Stage

/-- Why the program cannot be set up. -/
inductive SettingsError where
  | invalidPort
  | invalidHost
  | invalidRetryLimit
deriving DecidableEq

/-- The most often that a recalculation may be tried. -/
def maxAttempts : Nat := 100

/-- The error in words. -/
def SettingsError.message : SettingsError → String
  | invalidPort => "APP_PORT must be a valid u16"
  | invalidHost => "APP_HOST must parse to an IPv4 or IPv6 address"
  | invalidRetryLimit => s!"NVI_MAX_RECALCULATION_ATTEMPTS must be between 1 and {maxAttempts}"

/-- Variables by name; of two with one name the first counts. -/
abbrev Variables := List (String × String)

/-- The value of a variable. -/
def Variables.get? (vs : Variables) (name : String) : Option String :=
  (vs.find? (fun v => v.1 == name)).map (·.2)

/-- The first number that is no port. -/
def portLimit : Nat := 65536

/-- How the program is set up. -/
structure Settings where
  stage : Stage
  host : String
  port : Nat
  /-- Which events are logged. -/
  logFilter : String
  /-- How often a recalculation is tried. -/
  attempts : Nat
  /-- The file with the organization records. -/
  organizationsPath : Option String
deriving DecidableEq

namespace Settings

/-- A port is a number of 16 bits. -/
def port? (s : String) : Option Nat :=
  match natOfText? s with
  | some n => if n < portLimit then some n else none
  | none => none

/-- How often a recalculation is tried: from once up to `maxAttempts` times. -/
def attempts? (s : String) : Option Nat :=
  match natOfText? (trim s) with
  | some n => if 1 ≤ n ∧ n ≤ maxAttempts then some n else none
  | none => none

/-- The settings that the variables make. -/
def load (vs : Variables) : Except SettingsError Settings :=
  match port? ((vs.get? "APP_PORT").getD "3000"),
    attempts? ((vs.get? "NVI_MAX_RECALCULATION_ATTEMPTS").getD "5") with
  | none, _ => .error .invalidPort
  | some _, none => .error .invalidRetryLimit
  | some port, some attempts => .ok {
      stage := .ofName ((vs.get? "APP_ENV").getD "development")
      host := (vs.get? "APP_HOST").getD "127.0.0.1"
      port := port
      logFilter := (vs.get? "APP_LOG_LEVEL").getD "info"
      attempts := attempts
      organizationsPath := (vs.get? "NVI_ORGANIZATIONS_PATH").filter (fun p => !isBlank p) }

/-- The address of the host; `localhost` stands for the loopback address. -/
def address (s : Settings) : Except SettingsError HostAddress :=
  if s.host.toLower = "localhost" then .ok (.v4 #v[127, 0, 0, 1])
  else
    match HostAddress.ofText? s.host with
    | some a => .ok a
    | none => .error .invalidHost

/-- The address and the port to listen at. -/
def endpoint (s : Settings) : Except SettingsError String :=
  s.address.map fun a => a.textWithPort s.port

end Settings

end PublicationIndicator
