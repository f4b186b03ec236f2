import PublicationIndicator.Http.MediaType
import PublicationIndicator.Http.Target

/-!
# PublicationIndicator.Http.Request — requests over HTTP
-/

namespace PublicationIndicator

/-- What a request wants to do; methods other than these are not told apart. -/
inductive HttpMethod where
  | get
  | head
  | post
  | other
deriving DecidableEq

/-- The method of that name, if it is a name for one. -/
def HttpMethod.ofName? (name : String) : Option HttpMethod :=
  if name = "" ∨ ¬ name.toList.all MediaType.isNameChar then none
  else if name = "GET" then some get
  else if name = "HEAD" then some head
  else if name = "POST" then some post
  else some other

/-- A request. -/
structure HttpRequest where
  method : HttpMethod
  path : String
  /-- What the body is said to be. -/
  contentType : Option String
  body : String
deriving DecidableEq

namespace HttpRequest

/-- May the character stand in the value of a header? -/
def isHeaderChar (c : Char) : Bool := c = '\t' ∨ (0x20 ≤ c.toNat ∧ c.toNat < 0x7f)

/-- The request with these parts, if each is of the right form. -/
def ofParts? (method target : String) (contentType : Option String) (body : String) :
    Option HttpRequest := do
  let method ← HttpMethod.ofName? method
  let path ← Target.path? target
  if contentType.all (fun t => t.toList.all isHeaderChar) then
    some ⟨method, path, contentType, body⟩
  else none

end HttpRequest

end PublicationIndicator
