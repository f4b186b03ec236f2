import PublicationIndicator.Decimal.Binary

/-!
# PublicationIndicator.Json.Basic — JSON values

A `Json` value is what a text says up to the place where it stops being JSON.  `broken` marks that
place, and `unreadable` a scalar of the right form that has no value; values built by the program hold
neither.  Parts are kept in the order in which they stand in the text, so that it can be told which of
two problems comes first.
-/

namespace PublicationIndicator

/-- A number of a JSON text: a whole number of 64 bits written with digits only, or any other (`-0`,
`1.0`, `1e3`), which is one of binary64 with a sign. -/
inductive JsonNumber where
  | whole (n : Int)
  | binary (negative : Bool) (x : Binary64)
deriving DecidableEq

/-- The number in digits. -/
def JsonNumber.text : JsonNumber → String
  | .whole n => toString n
  | .binary negative x => (if negative then "-" else "") ++ x.text

/-- A JSON value, up to the first place where its text is none. -/
inductive Json where
  | null
  | bool (b : Bool)
  | number (n : JsonNumber)
  | string (s : String)
  | array (items : List Json)
  | object (fields : List (String × Json))
  /-- A string with half of a surrogate pair, or a number too large for binary64. -/
  | unreadable
  /-- The place where the text stops being JSON. -/
  | broken

namespace Json

/-- A whole number as JSON. -/
def ofNat (n : Nat) : Json := .number (.whole n)

/-- Nothing is `null`. -/
def ofOption {α : Type} (f : α → Json) : Option α → Json
  | some a => f a
  | none => .null

/-! ### Measures of a value -/

mutual

/-- Was the text JSON to the end of the value? -/
def intact : Json → Bool
  | .array items => intactItems items
  | .object fields => intactFields fields
  | .broken => false
  | _ => true

/-- `intact` for a list. -/
def intactItems : List Json → Bool
  | [] => true
  | j :: rest => j.intact && intactItems rest

/-- `intact` for a list of fields. -/
def intactFields : List (String × Json) → Bool
  | [] => true
  | (_, j) :: rest => j.intact && intactFields rest

end

mutual

/-- Is the value intact and every scalar in it readable? -/
def readable : Json → Bool
  | .array items => readableItems items
  | .object fields => readableFields fields
  | .unreadable => false
  | .broken => false
  | _ => true

/-- `readable` for a list. -/
def readableItems : List Json → Bool
  | [] => true
  | j :: rest => j.readable && readableItems rest

/-- `readable` for a list of fields. -/
def readableFields : List (String × Json) → Bool
  | [] => true
  | (_, j) :: rest => j.readable && readableFields rest

end

mutual

/-- How deep arrays and objects stand in each other. -/
def depth : Json → Nat
  | .array items => depthItems items + 1
  | .object fields => depthFields fields + 1
  | _ => 0

/-- The greatest depth in a list. -/
def depthItems : List Json → Nat
  | [] => 0
  | j :: rest => max j.depth (depthItems rest)

/-- The greatest depth in a list of fields. -/
def depthFields : List (String × Json) → Nat
  | [] => 0
  | (_, j) :: rest => max j.depth (depthFields rest)

end

/-! ### Objects as tables -/

/-- The value of the first field with that name. -/
def field? (name : String) : Json → Option Json
  | .object fields => (fields.find? (fun f => f.1 == name)).map (·.2)
  | _ => none

mutual

/-- The value with only the last of several fields of one name, in its place. -/
def lastOfEach : Json → Json
  | .array items => .array (lastOfEachItems items)
  | .object fields => .object (lastOfEachFields fields)
  | j => j

/-- `lastOfEach` in a list. -/
def lastOfEachItems : List Json → List Json
  | [] => []
  | j :: rest => j.lastOfEach :: lastOfEachItems rest

/-- `lastOfEach` in a list of fields. -/
def lastOfEachFields : List (String × Json) → List (String × Json)
  | [] => []
  | (name, j) :: rest =>
    if rest.any (fun f => f.1 == name) then lastOfEachFields rest
    else (name, j.lastOfEach) :: lastOfEachFields rest

end

end Json

end PublicationIndicator
