import PublicationIndicator.Text.Digits

/-!
# PublicationIndicator.Http.Target — what a request is for

The target of a request is a path with an optional query, a full address with a scheme, or the name of
a host alone.  `Target.path?` gives the path of a target of the right form; a query or fragment is
looked at only for characters that must not be there.
-/

namespace PublicationIndicator.Target

open Text

/-! ### Characters -/

/-- Is it a letter of ASCII? -/
def isLetter (c : Char) : Bool := ('a' ≤ c ∧ c ≤ 'z') ∨ ('A' ≤ c ∧ c ≤ 'Z')

/-- May the character stand in a path?  Blanks, controls, angle brackets and the back quote must not. -/
def isPathChar (c : Char) : Bool :=
  0x20 < c.toNat ∧ ¬ c ∈ ['#', '<', '>', '?', '\x60']

/-- May the character stand in a query?  Blanks, controls, quotes and angle brackets must not. -/
def isQueryChar (c : Char) : Bool := 0x20 < c.toNat ∧ ¬ c ∈ ['"', '#', '<', '>']

/-- May the character stand in a scheme? -/
def isSchemeChar (c : Char) : Bool := isLetter c ∨ isDigit c ∨ c ∈ ['+', '-', '.']

/-- May the character stand in the name of a host with user and port? -/
def isAuthorityChar (c : Char) : Bool :=
  isLetter c ∨ isDigit c ∨ c ∈ ['!', '$', '&', '\'', '(', ')', '*', '+', ',', '-', '.', ':', ';', '=',
    '@', '[', ']', '_', '~', '%']

/-! ### Paths -/

/-- The path in front of a query or fragment, if there is nothing in them that must not be there. -/
def pathOf? (cs : List Char) : Option String :=
  let path := cs.takeWhile isPathChar
  let result := String.ofList (if path = [] then ['/'] else path)
  match cs.dropWhile isPathChar with
  | [] => some result
  | '#' :: _ => some result
  | '?' :: query =>
    match query.dropWhile isQueryChar with
    | [] => some result
    | '#' :: _ => some result
    | _ => none
  | _ => none

/-! ### Hosts -/

/-- What was seen of the name of a host. -/
structure AuthorityScan where
  colons : Nat
  opened : Bool
  closed : Bool
  percent : Bool
  /-- Was the last character an at sign? -/
  afterAt : Bool

/-- Takes one more character of the name of a host. -/
def AuthorityScan.step? (s : AuthorityScan) (c : Char) : Option AuthorityScan :=
  let s := { s with afterAt := false }
  if ¬ isAuthorityChar c then none
  else if c = ':' then if s.colons < 8 then some { s with colons := s.colons + 1 } else none
  else if c = '[' then if s.percent ∨ s.opened then none else some { s with opened := true }
  else if c = ']' then
    if ¬ s.opened ∨ s.closed then none
    else some { s with closed := true, colons := 0, percent := false }
  else if c = '@' then some { s with colons := 0, percent := false, afterAt := true }
  else if c = '%' then some { s with percent := true }
  else some s

/-- Is it the name of a host, perhaps with user and port? -/
def isAuthority (cs : List Char) : Bool :=
  match cs.foldlM AuthorityScan.step? ⟨0, false, false, false, false⟩ with
  | some s => s.opened = s.closed ∧ s.colons ≤ 1 ∧ ¬ s.percent ∧ ¬ s.afterAt
  | none => false

/-! ### Targets -/

/-- What follows the scheme of a full address; the scheme has 64 characters at most. -/
def afterScheme? (cs : List Char) : Option (List Char) :=
  match cs.dropWhile isSchemeChar with
  | ':' :: '/' :: '/' :: rest => some rest
  | _ => none

/-- How long a scheme may be. -/
def schemeLimit : Nat := 64

/-- How many bytes a target may have. -/
def lengthLimit : Nat := 65534

/-- The path of a target, or nothing if the target is not of the right form.  The name of a host alone
has the empty path. -/
def path? (target : String) : Option String :=
  let cs := target.toList
  if lengthLimit < target.utf8ByteSize then none
  else
    match cs with
    | [] => none
    | ['*'] => some "*"
    | '/' :: _ => pathOf? cs
    | _ =>
      match afterScheme? cs with
      | none => if isAuthority cs then some "" else none
      | some rest =>
        let isHostChar (c : Char) : Bool := ¬ c ∈ ['/', '?', '#']
        let host := rest.takeWhile isHostChar
        if (cs.takeWhile isSchemeChar).length ≤ schemeLimit ∧ host ≠ [] ∧ isAuthority host then
          pathOf? (rest.dropWhile isHostChar)
        else none

end PublicationIndicator.Target
