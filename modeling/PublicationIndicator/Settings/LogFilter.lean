import PublicationIndicator.Text.Blank
import PublicationIndicator.Text.Digits

/-!
# PublicationIndicator.Settings.LogFilter — which events to log

A filter is a list of directives with commas between them.  A directive is a level, or a target with
the level from which on its events are logged, and may name a span and fields in brackets.  Here a
text is only told to be a filter or not.
-/

namespace PublicationIndicator.LogFilter

open Text

/-- Is it a level, by name in capitals or not, or by number? -/
def isLevel (s : String) : Bool :=
  (natOfText? s).any (fun n => n ≤ 5) ∨
    s.toLower ∈ ["", "off", "error", "warn", "info", "debug", "trace"]

/-- Where the reading of a directive stands. -/
inductive Place where
  /-- In front of the directive. -/
  | start
  /-- In a level or a target. -/
  | word
  /-- In the name of a span. -/
  | span
  /-- In a field, of which something was read or not. -/
  | field (blank : Bool)
  /-- Behind the fields. -/
  | fields
  /-- Behind the brackets. -/
  | target
  /-- In a level, from a position on. -/
  | level (position : Nat)

/-- May a directive start with the character?  Characters beyond ASCII count as letters. -/
def startsWord (c : Char) : Bool :=
  c.isAlphanum ∨ 0x80 ≤ c.toNat ∨ c = '-' ∨ c = ':' ∨ c = '_'

/-- Where the reading stands after the character at a position. -/
def Place.step? (position : Nat) (c : Char) : Place → Option Place
  | start => if c = '[' then some span else if startsWord c then some word else none
  | word =>
    if c = '=' then some (level (position + 1)) else if c = '[' then some span else some word
  | span => if c = ']' then some target else if c = '\x7b' then some (field true) else some span
  | field blank =>
    if c = '\x7d' then if blank then none else some fields else some (field false)
  | fields => if c = ']' then some target else none
  | target => if c = '=' then some (level (position + 1)) else none
  | level p => some (level p)

/-- Is it a directive?  Blanks around it are passed over, but positions are counted without those in
front and looked up with them. -/
def isDirective (s : String) : Bool :=
  let cs := (trim s).toList
  match cs.zipIdx.foldlM (fun p c => Place.step? c.2 c.1 p) Place.start with
  | some .word => true
  | some .target => true
  | some (.level position) => isLevel (String.ofList (s.toList.drop position))
  | _ => false

/-- Is it a filter?  What stands between commas may be empty. -/
def isFilter (s : String) : Bool :=
  (s.splitOn ",").all fun directive => directive = "" ∨ isDirective directive

end PublicationIndicator.LogFilter
