import PublicationIndicator.Settings.Basic

/-!
# PublicationIndicator.Settings.EnvFile — variables in a file

A file may hold variables, one a line: a name, an equals sign and a value, which may be in quotes.
Blank lines and comments are passed over.  The first line that is none of these ends the file.
-/

namespace PublicationIndicator.EnvFile

open Text

/-! ### Values -/

/-- What was read of a value: its characters, the last in front, and how the next one is taken. -/
structure ValueScan where
  chars : List Char
  /-- Inside single quotes. -/
  single : Bool
  /-- Inside double quotes. -/
  double : Bool
  /-- Behind a backslash. -/
  escaped : Bool
  /-- Behind a blank, where only a comment may follow. -/
  ended : Bool
  /-- Behind the sign of a comment. -/
  comment : Bool

namespace ValueScan

/-- Nothing was read yet. -/
def start : ValueScan := ⟨[], false, false, false, false, false⟩

/-- One character more. -/
def push (s : ValueScan) (c : Char) : ValueScan := { s with chars := c :: s.chars }

/-- Takes the next character. -/
def step? (s : ValueScan) (c : Char) : Option ValueScan :=
  if s.comment then some s
  else if s.ended then
    if c = ' ' ∨ c = '\t' then some s
    else if c = '#' then some { s with comment := true }
    else none
  else if s.escaped then
    let s := { s with escaped := false }
    if c ∈ ['\\', '\'', '"', '$', ' '] then some (s.push c)
    else if c = 'n' then some (s.push '\n')
    else none
  else if s.single then if c = '\'' then some { s with single := false } else some (s.push c)
  else if c = '\\' then some { s with escaped := true }
  else if c = '"' then some { s with double := !s.double }
  else if s.double then some (s.push c)
  else if c = '\'' then some { s with single := true }
  else if c = ' ' ∨ c = '\t' then some { s with ended := true }
  else some (s.push c)

end ValueScan

/-- The value that characters stand for. -/
def value? (cs : List Char) : Option String :=
  match cs.foldlM ValueScan.step? .start with
  | some s => if s.single ∨ s.double then none else some (String.ofList s.chars.reverse)
  | none => none

/-! ### Lines -/

/-- May the character stand in a name behind the first? -/
def isNameChar (c : Char) : Bool := c.isAlphanum ∨ c = '_' ∨ c = '.'

/-- Reads a name. -/
def readName? (cs : List Char) : Option (String × List Char) :=
  match cs with
  | c :: _ =>
    if c.isAlpha ∨ c = '_' then
      some (String.ofList (cs.takeWhile isNameChar), trimStart (cs.dropWhile isNameChar))
    else none
  | [] => none

/-- Reads a name and the equals sign behind it; the word `export` may stand in front. -/
def readAssignment? (cs : List Char) : Option (String × List Char) :=
  match readName? cs with
  | none => none
  | some (name, '=' :: rest) => some (name, trimStart rest)
  | some (name, rest) =>
    if name = "export" then
      match readName? rest with
      | some (name, '=' :: rest) => some (name, trimStart rest)
      | _ => none
    else none

/-- The variable of a line, if there is one in it. -/
def line? (line : String) : Option (Option (String × String)) :=
  let cs := trimStart (trim line).toList
  match cs with
  | [] => some none
  | '#' :: _ => some none
  | _ =>
    match readAssignment? cs with
    | none => none
    | some (name, []) => some (some (name, ""))
    | some (name, '#' :: _) => some (some (name, ""))
    | some (name, rest) => (value? rest).map fun v => some (name, v)

/-- The variables of lines up to the first that is in disorder. -/
def ofLines : List String → Variables
  | [] => []
  | l :: rest =>
    match line? l with
    | none => []
    | some none => ofLines rest
    | some (some v) => v :: ofLines rest

/-- The variables of a file. -/
def assignments (text : String) : Variables := ofLines (text.splitOn "\n")

end PublicationIndicator.EnvFile
