import PublicationIndicator.Report.Demo
import PublicationIndicator.Settings.Basic
import PublicationIndicator.Text.Digits

/-!
# PublicationIndicator.Cli.Arguments — what the program is asked to do

A command is followed by options.  The value of an option follows it as the next argument or behind
an equals sign; no option is given twice.
-/

namespace PublicationIndicator.Cli

open Text

/-- How the service is to be started. -/
structure ServeOptions where
  host : Option String
  port : Option Nat
deriving DecidableEq

/-- What is to be scored. -/
structure ScoreOptions where
  /-- The file with the facts. -/
  facts : String
  /-- The file with the organization records. -/
  organizations : Option String
  /-- Is the whole evaluation to be written as a document? -/
  asJson : Bool
deriving DecidableEq

/-- What the program is asked to do. -/
inductive Command where
  | serve (options : ServeOptions)
  | score (options : ScoreOptions)
  | demo (scenario : Option Report.Scenario)
  /-- Say which version of the program this is. -/
  | version
deriving DecidableEq

/-! ### Options -/

/-- What was given of options: names with their values, flags without. -/
abbrev Given := List (String × Option String)

/-- May the argument be the value of an option? -/
def isValue (arg : String) : Bool := arg = "-" ∨ ¬ arg.startsWith "-"

/-- A name and what stands behind the equals sign, if there is one. -/
def splitAtEquals (cs : List Char) : List Char × Option (List Char) :=
  match cs.dropWhile (· ≠ '=') with
  | _ :: value => (cs.takeWhile (· ≠ '='), some value)
  | [] => (cs, none)

/-- The name of an option after its two dashes, with a value behind an equals sign. -/
def option? (arg : String) : Option (String × Option String) :=
  match arg.toList with
  | '-' :: '-' :: cs =>
    let (name, value) := splitAtEquals cs
    some (String.ofList name, value.map String.ofList)
  | _ => none

/-- Reads options: `valued` are those with a value, `flags` those without.  An option that was given
already is refused. -/
def readOptions? (valued flags : List String) (given : Given) : List String → Option Given
  | [] => some given
  | ["--"] => some given
  | arg :: rest =>
    match option? arg with
    | none => none
    | some (name, value) =>
      if given.any (fun g => g.1 == name) then none
      else if flags.contains name then
        if value.isSome then none else readOptions? valued flags (given ++ [(name, none)]) rest
      else if valued.contains name then
        match value, rest with
        | some value, rest => readOptions? valued flags (given ++ [(name, some value)]) rest
        | none, value :: rest =>
          if isValue value then readOptions? valued flags (given ++ [(name, some value)]) rest
          else none
        | none, [] => none
      else none

/-- The value of an option. -/
def Given.value? (g : Given) (name : String) : Option String :=
  (g.find? (fun e => e.1 == name)).bind (·.2)

/-- Was the option given? -/
def Given.has (g : Given) (name : String) : Bool := g.any (fun e => e.1 == name)

/-- The value of an option, read from its text: nothing if it was not given. -/
def Given.read? {α : Type} (g : Given) (name : String) (read : String → Option α) :
    Option (Option α) :=
  match g.value? name with
  | none => some none
  | some text => (read text).map some

/-! ### Values -/

/-- The name of a file is not empty. -/
def path? (s : String) : Option String := if s = "" then none else some s

/-- A port: a number of 16 bits, perhaps with a sign. -/
def port? (s : String) : Option Nat :=
  let n? :=
    match s.toList with
    | '-' :: ds =>
      if ds ≠ [] ∧ ds.all isDigit ∧ digitsValue ds = 0 then some 0 else none
    | _ => natOfText? s
  n?.filter (fun n => n < portLimit)

/-- The scenario of that letter. -/
def scenario? (s : String) : Option Report.Scenario :=
  Report.Scenario.all.find? (fun c => c.letter == s)

/-! ### Commands -/

/-- Reads the options of the service. -/
def readServe? (args : List String) : Option Command := do
  let g ← readOptions? ["host", "port"] [] [] args
  some (.serve ⟨g.value? "host", ← g.read? "port" port?⟩)

/-- Reads the options of scoring. -/
def readScore? (args : List String) : Option Command := do
  let g ← readOptions? ["facts", "organizations"] ["json"] [] args
  let facts ← (g.value? "facts").bind path?
  some (.score ⟨facts, ← g.read? "organizations" path?, g.has "json"⟩)

/-- Reads the options of the demo. -/
def readDemo? (args : List String) : Option Command := do
  let g ← readOptions? ["scenario"] [] [] args
  some (.demo (← g.read? "scenario" scenario?))

/-- The command that arguments stand for, unless they are in disorder.  Without any the service is
started. -/
def Command.ofArguments? : List String → Option Command
  | [] => some (.serve ⟨none, none⟩)
  | ["--"] => some (.serve ⟨none, none⟩)
  | "serve" :: args => readServe? args
  | "score" :: args => readScore? args
  | "demo" :: args => readDemo? args
  | "--version" :: _ => some .version
  | "-V" :: _ => some .version
  | _ => none

end PublicationIndicator.Cli
