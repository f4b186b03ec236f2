import PublicationIndicator.Text.Digits

/-!
# PublicationIndicator.Http.MediaType — what the body of a request is said to be

A media type has a name in two parts, the second of which may end in a suffix behind a plus sign, and
parameters behind semicolons.
-/

namespace PublicationIndicator.MediaType

open Text

/-- May the character stand in a name? -/
def isNameChar (c : Char) : Bool :=
  isDigit c ∨ ('a' ≤ c ∧ c ≤ 'z') ∨ ('A' ≤ c ∧ c ≤ 'Z') ∨
    c ∈ ['!', '#', '$', '%', '&', '\'', '*', '+', '-', '.', '^', '_', '\x60', '|', '~']

/-! ### Parameters -/

/-- Where the reading of parameters stands. -/
inductive Place where
  /-- In front of a name. -/
  | start
  /-- In a name. -/
  | inName
  /-- Behind the sign between name and value. -/
  | afterEquals
  /-- In a value without quotes. -/
  | inValue
  /-- Behind the opening quote. -/
  | afterQuote
  /-- In a value in quotes. -/
  | inQuotes
  /-- Behind the closing quote. -/
  | closed

/-- Where the reading stands after one more character. -/
def Place.step? (c : Char) : Place → Option Place
  | start => if c = ' ' then some start else if isNameChar c then some inName else none
  | inName => if c = '=' then some afterEquals else if isNameChar c then some inName else none
  | afterEquals =>
    if c = '"' then some afterQuote else if isNameChar c then some inValue else none
  | inValue => if c = ';' then some start else if isNameChar c then some inValue else none
  | afterQuote => if 31 < c.toNat ∧ c.toNat ≠ 127 then some inQuotes else none
  | inQuotes =>
    if c = '"' then some closed else if 31 < c.toNat ∧ c.toNat ≠ 127 then some inQuotes else none
  | closed => if c = ';' then some start else if c = ' ' then some closed else none

/-- May the parameters end here? -/
def Place.mayEnd : Place → Bool
  | start | afterEquals | inValue | closed => true
  | _ => false

/-- Are these parameters? -/
def areParameters (cs : List Char) : Bool :=
  ((cs.foldlM (fun p c => Place.step? c p) Place.start).map Place.mayEnd).getD false

/-! ### Names -/

/-- What stands behind the last plus sign that is not the first character. -/
def suffix? (subtype : List Char) : Option (List Char) :=
  if subtype.tail.contains '+' then some (subtype.reverse.takeWhile (· ≠ '+')).reverse else none

/-- The second part of a name without its suffix. -/
def withoutSuffix (subtype : List Char) : List Char :=
  match suffix? subtype with
  | some suffix => subtype.take (subtype.length - suffix.length - 1)
  | none => subtype

/-- Is it a media type of JSON: `application/json`, or another one of `application` with the suffix
`json`? -/
def isJson (s : String) : Bool :=
  let cs := s.toList.map Char.toLower
  let name := cs.takeWhile isNameChar
  match cs.dropWhile isNameChar with
  | '/' :: rest =>
    let subtype := rest.takeWhile isNameChar
    let parameters :=
      match rest.dropWhile isNameChar with
      | [] => true
      | ';' :: rest => areParameters rest
      | _ => false
    String.ofList name == "application" && parameters &&
      (String.ofList (withoutSuffix subtype) == "json" ||
        (suffix? subtype).any (fun suffix => String.ofList suffix == "json"))
  | _ => false

end PublicationIndicator.MediaType
