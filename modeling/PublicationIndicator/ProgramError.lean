import PublicationIndicator.Http.Status
import PublicationIndicator.Settings.Basic

/-!
# PublicationIndicator.ProgramError — why the program gives up
-/

namespace PublicationIndicator

/-- Why the program gives up. -/
inductive ProgramError where
  | settings (e : SettingsError)
  /-- The text does not say which events to log. -/
  | logFilter (text : String)
  /-- A file is not there. -/
  | missingFile
  | candidate (e : ServiceError)
  /-- A document is not what it should be. -/
  | document

namespace ProgramError

/-- What the error comes from, in words; documents do not tell. -/
def cause : ProgramError → String
  | settings e => e.message
  | logFilter text => s!"invalid log level/filter '{text}': unable to build EnvFilter"
  | missingFile => "No such file or directory (os error 2)"
  | candidate e => e.message
  | document => ""

/-- The part of the program that the error comes from. -/
def area : ProgramError → String
  | settings _ => "configuration error"
  | logFilter _ => "telemetry error"
  | missingFile => "io error"
  | candidate _ => "candidate error"
  | document => "invalid JSON document"

/-- The error in words. -/
def message (e : ProgramError) : String := e.area ++ ": " ++ e.cause

/-- The status with which the error is answered. -/
def status : ProgramError → HttpStatus
  | candidate e => e.status
  | document => .badRequest
  | _ => .internalServerError

end ProgramError

end PublicationIndicator
