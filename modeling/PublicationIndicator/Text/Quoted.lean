import PublicationIndicator.Text.Extending
import PublicationIndicator.Text.Unprintable

/-!
# PublicationIndicator.Text.Quoted — text in quotes for people to read

Quotes, backslashes and line ends are written with a backslash; a character that could not be seen is
written by its number in hexadecimal.
-/

namespace PublicationIndicator.Text

/-- A character by its number. -/
def byNumber (c : Char) : List Char :=
  ['\\', 'u', '\x7b'] ++ Nat.toDigits 16 c.toNat ++ ['\x7d']

/-- A character as it stands in quotes. -/
def quotedChar (c : Char) : List Char :=
  if c = '\x00' then ['\\', '0']
  else if c = '\t' then ['\\', 't']
  else if c = '\r' then ['\\', 'r']
  else if c = '\n' then ['\\', 'n']
  else if c = '"' ∨ c = '\\' then ['\\', c]
  else if isExtending c ∨ isUnprintable c then byNumber c
  else [c]

/-- The text in quotes. -/
def quoted (s : String) : String :=
  String.ofList (['"'] ++ s.toList.flatMap quotedChar ++ ['"'])

end PublicationIndicator.Text
