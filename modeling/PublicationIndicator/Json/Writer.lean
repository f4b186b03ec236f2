import PublicationIndicator.Json.Basic
import PublicationIndicator.Text.Digits

/-!
# PublicationIndicator.Json.Writer — JSON as text

`Json.compact` writes a value on one line without blanks, `Json.pretty` one part a line, two blanks
deeper inside each array and object.  Both are built from functions that write in front of a text
that is there already.
-/

namespace PublicationIndicator.Json

open Text

/-- A character inside a string, in front of `tail`. -/
def writeChar (c : Char) (tail : List Char) : List Char :=
  if c = '"' then '\\' :: '"' :: tail
  else if c = '\\' then '\\' :: '\\' :: tail
  else if c = '\x08' then '\\' :: 'b' :: tail
  else if c = '\x0c' then '\\' :: 'f' :: tail
  else if c = '\n' then '\\' :: 'n' :: tail
  else if c = '\r' then '\\' :: 'r' :: tail
  else if c = '\t' then '\\' :: 't' :: tail
  else if c.toNat < 0x20 then
    '\\' :: 'u' :: '0' :: '0' :: hexDigit (c.toNat / 16) :: hexDigit (c.toNat % 16) :: tail
  else c :: tail

/-- A string in quotes, in front of `tail`. -/
def writeString (s : String) (tail : List Char) : List Char :=
  '"' :: s.toList.foldr writeChar ('"' :: tail)

/-- A scalar, in front of `tail`; arrays and objects are written elsewhere. -/
def writeScalar (j : Json) (tail : List Char) : List Char :=
  match j with
  | .null => 'n' :: 'u' :: 'l' :: 'l' :: tail
  | .bool true => 't' :: 'r' :: 'u' :: 'e' :: tail
  | .bool false => 'f' :: 'a' :: 'l' :: 's' :: 'e' :: tail
  | .number n => n.text.toList ++ tail
  | .string s => writeString s tail
  | _ => tail

/-! ### On one line -/

mutual

/-- A value on one line, in front of `tail`. -/
def writeCompact : Json → List Char → List Char
  | .array items, tail => '[' :: writeItems items (']' :: tail)
  | .object fields, tail => '\x7b' :: writeFields fields ('\x7d' :: tail)
  | j, tail => writeScalar j tail

/-- Items with commas between them, in front of `tail`. -/
def writeItems : List Json → List Char → List Char
  | [], tail => tail
  | [j], tail => writeCompact j tail
  | j :: rest, tail => writeCompact j (',' :: writeItems rest tail)

/-- Fields with commas between them, in front of `tail`. -/
def writeFields : List (String × Json) → List Char → List Char
  | [], tail => tail
  | [(name, j)], tail => writeString name (':' :: writeCompact j tail)
  | (name, j) :: rest, tail => writeString name (':' :: writeCompact j (',' :: writeFields rest tail))

end

/-- The value on one line. -/
def compact (j : Json) : String := String.ofList (writeCompact j [])

/-! ### One part a line -/

/-- The start of a line `level` steps deep, in front of `tail`. -/
def newLine (level : Nat) (tail : List Char) : List Char :=
  '\n' :: (List.replicate (2 * level) ' ' ++ tail)

mutual

/-- A value whose parts stand one step deeper than `level`, in front of `tail`. -/
def writePretty : Nat → Json → List Char → List Char
  | _, .array [], tail => '[' :: ']' :: tail
  | level, .array items, tail =>
    '[' :: newLine (level + 1) (writePrettyItems level items (newLine level (']' :: tail)))
  | _, .object [], tail => '\x7b' :: '\x7d' :: tail
  | level, .object fields, tail =>
    '\x7b' :: newLine (level + 1) (writePrettyFields level fields (newLine level ('\x7d' :: tail)))
  | _, j, tail => writeScalar j tail

/-- Items one a line, in front of `tail`. -/
def writePrettyItems : Nat → List Json → List Char → List Char
  | _, [], tail => tail
  | level, [j], tail => writePretty (level + 1) j tail
  | level, j :: rest, tail =>
    writePretty (level + 1) j (',' :: newLine (level + 1) (writePrettyItems level rest tail))

/-- Fields one a line, in front of `tail`. -/
def writePrettyFields : Nat → List (String × Json) → List Char → List Char
  | _, [], tail => tail
  | level, [(name, j)], tail => writeString name (':' :: ' ' :: writePretty (level + 1) j tail)
  | level, (name, j) :: rest, tail =>
    writeString name (':' :: ' ' :: writePretty (level + 1) j
      (',' :: newLine (level + 1) (writePrettyFields level rest tail)))

end

/-- The value with one part a line. -/
def pretty (j : Json) : String := String.ofList (writePretty 0 j [])

end PublicationIndicator.Json
