import PublicationIndicator.Json.Reader

/-!
# PublicationIndicator.Json.Decode — values of a type from JSON

A `Decoder` finds a value of a type in a JSON value or says what is wrong with it: the text is no JSON
(`malformed`), or it is JSON of another shape (`mismatch`).  Of several faults the one that stands
first in the text counts, which is why the parts of a record are read as a `Reading`: a value or the
earliest fault with its position.

Records are objects with named fields or arrays of the fields in order.  Variants are told apart by a
name: alone, as the only field of an object, or in a tag field.
-/

namespace PublicationIndicator

/-- Why a JSON text gives no value of a type. -/
inductive Fault where
  /-- The text is no JSON. -/
  | malformed
  /-- The text is JSON of another shape. -/
  | mismatch
deriving DecidableEq

/-- Finds a value in a JSON value. -/
abbrev Decoder (α : Type) := Json → Except Fault α

namespace Decoder

variable {α β : Type}

/-! ### Scalars and lists -/

/-- The answer to a value of the wrong shape: an array or object is refused at its bracket, a scalar
only once it is read. -/
def refuse : Decoder α
  | .broken => .error .malformed
  | .unreadable => .error .malformed
  | _ => .error .mismatch

/-- A string. -/
def string : Decoder String
  | .string s => .ok s
  | j => refuse j

/-- A truth value. -/
def bool : Decoder Bool
  | .bool b => .ok b
  | j => refuse j

/-- A whole number from zero up to `bound`, without it. -/
def natBelow (bound : Nat) : Decoder Nat
  | .number (.whole n) => if 0 ≤ n ∧ n < bound then .ok n.toNat else .error .mismatch
  | j => refuse j

/-- Nothing is written as `null`. -/
def null : Decoder Unit
  | .null => .ok ()
  | j => refuse j

/-- `null` or a value. -/
def option (d : Decoder α) : Decoder (Option α)
  | .null => .ok none
  | j => (d j).map some

/-- An array of values. -/
def list (d : Decoder α) : Decoder (List α)
  | .array items => items.mapM d
  | j => refuse j

/-- A value that is made of another. -/
def map (f : α → β) (d : Decoder α) : Decoder β := fun j => (d j).map f

/-- A value that is made of another, where that is possible. -/
def mapPartial (f : α → Option β) (d : Decoder α) : Decoder β := fun j =>
  match d j with
  | .error e => .error e
  | .ok a =>
    match f a with
    | some b => .ok b
    | none => .error .mismatch

/-- How deep brackets may stand in each other in a document where a part is read whole before it is
looked at. -/
def depthLimit : Nat := 127

/-- Can the part be read whole, with brackets no deeper than `levels`? -/
def isWhole (levels : Nat) (j : Json) : Bool := j.readable ∧ j.depth ≤ levels

/-- A text that holds one value and nothing else. -/
def ofText (d : Decoder α) (text : String) : Except Fault α :=
  let (j, rest) := Json.read text
  match d j, rest with
  | .error e, _ => .error e
  | .ok a, some rest => if Json.skipSpace rest = [] then .ok a else .error .malformed
  | .ok _, none => .error .malformed

/-- A text that starts with a value; what stands behind it does not matter. -/
def ofFrontOfText (d : Decoder α) (text : String) : Except Fault α :=
  d (Json.read text).1

end Decoder

/-! ### Parts in their order -/

/-- A value, or the earliest fault and the position at which it is met. -/
def Reading (α : Type) := Except (Nat × Fault) α

namespace Reading

variable {α β : Type}

/-- A fault met at a position. -/
def fault (position : Nat) (e : Fault) : Reading α := .error (position, e)

/-- What a decoder says about the part at a position. -/
def atPosition (position : Nat) (r : Except Fault α) : Reading α := r.mapError (position, ·)

/-- Of the faults in two readings the earlier one counts. -/
instance : Applicative Reading where
  pure a := .ok a
  seq f x :=
    match f, x () with
    | .ok g, .ok a => .ok (g a)
    | .ok _, .error e => .error e
    | .error e, .ok _ => .error e
    | .error e, .error e' => .error (if e'.1 < e.1 then e' else e)

/-- A reading of which only the faults matter, in front of another. -/
def after (checked : Reading Unit) (r : Reading α) : Reading α := (fun _ a => a) <$> checked <*> r

/-- Only the faults of several readings. -/
def all (rs : List (Reading Unit)) : Reading Unit := rs.foldr after (pure ())

/-- The value, or the fault without its position. -/
def finish (r : Reading α) : Except Fault α := r.mapError (·.2)

end Reading

/-- The parts of a record as they stand in a text: where each one is found, and where the record
ends. -/
structure Members where
  find? : String → Option (Nat × Json)
  stop : Nat

namespace Members

variable {α : Type}

/-- A part that must be there. -/
def required (m : Members) (name : String) (d : Decoder α) : Reading α :=
  match m.find? name with
  | some (i, j) => .atPosition i (d j)
  | none => .fault m.stop .mismatch

/-- A part that has a value of its own when it is not there. -/
def withDefault (m : Members) (name : String) (a : α) (d : Decoder α) : Reading α :=
  match m.find? name with
  | some (i, j) => .atPosition i (d j)
  | none => pure a

/-- A part that may be left out or be `null`. -/
def optional (m : Members) (name : String) (d : Decoder α) : Reading (Option α) :=
  m.withDefault name none d.option

/-- The fields of an object. -/
def ofFields (fields : List (String × Json)) : Members where
  find? name := (fields.zipIdx.find? (fun f => f.1.1 == name)).map (fun f => (f.2, f.1.2))
  stop := fields.length

/-- The items of an array, which stand for the names in order. -/
def ofItems (names : List String) (items : List Json) : Members where
  find? name := ((names.zip items).zipIdx.find? (fun f => f.1.1 == name)).map
    (fun f => (f.2, f.1.2))
  stop := items.length

/-- A known field must not come twice, and an unknown one must be JSON. -/
def audit (names : List String) (fields : List (String × Json)) : Reading Unit :=
  .all (fields.zipIdx.map fun f =>
    if names.contains f.1.1 then
      if (fields.take f.2).any (fun g => g.1 == f.1.1) then .fault f.2 .mismatch else pure ()
    else if f.1.2.intact then pure () else .fault f.2 .malformed)

end Members

namespace Decoder

variable {α : Type}

/-- An array with more items than `n` is refused at the first of them. -/
def atMost (n : Nat) (items : List Json) : Reading Unit :=
  if items.length ≤ n then pure () else .fault n .malformed

/-- A record of parts with the given names, as an object or as an array. -/
def record (names : List String) (build : Members → Reading α) : Decoder α
  | .object fields =>
    (Reading.after (Members.audit names fields) (build (.ofFields fields))).finish
  | .array items =>
    (Reading.after (atMost names.length items) (build (.ofItems names items))).finish
  | j => refuse j

/-! ### Variants -/

/-- A variant: a value without payload, or one that is read from its payload. -/
inductive Variant (α : Type) where
  | bare (a : α)
  | carrying (payload : Decoder α)

/-- The variant of that name. -/
def Variant.named? (variants : List (String × Variant α)) (name : String) : Option (Variant α) :=
  (variants.find? (fun v => v.1 == name)).map (·.2)

/-- The value of a variant with its payload. -/
def Variant.ofPayload : Variant α → Decoder α
  | .bare a => null.map (fun _ => a)
  | .carrying d => d

/-- A variant as its name alone, or as an object whose only field has that name. -/
def variant (variants : List (String × Variant α)) : Decoder α
  | .string name =>
    match Variant.named? variants name with
    | some (.bare a) => .ok a
    | _ => .error .mismatch
  | .object ((name, j) :: rest) =>
    match Variant.named? variants name with
    | none => if name = "" then refuse j else .error .mismatch
    | some v =>
      match v.ofPayload j with
      | .error e => .error e
      | .ok a => if rest = [] then .ok a else .error .malformed
  | _ => .error .malformed

/-- One of several names. -/
def choice (names : List (String × α)) : Decoder α :=
  variant (names.map fun n => (n.1, .bare n.2))

/-- A variant whose name stands in the field `tag` and whose payload in the field `content`.  A
payload that stands in front of its tag is read whole first. -/
def tagged (tag content : String) (levels : Nat) (variants : List (String × Variant α)) :
    Decoder α :=
  let named : Decoder (Variant α) := choice variants
  let build (m : Members) (contentNeeded : Bool) : Reading α :=
    match m.find? tag with
    | none => .fault m.stop .mismatch
    | some (i, t) =>
      match named t with
      | .error e => .fault i e
      | .ok v =>
        match m.find? content with
        | some (k, j) =>
          if k < i then .atPosition i ((v.ofPayload j).mapError fun _ => .mismatch)
          else .atPosition k (v.ofPayload j)
        | none =>
          match v with
          | .bare a => if contentNeeded then .fault m.stop .mismatch else pure a
          | .carrying _ => .fault m.stop .mismatch
  fun
  | .object fields =>
    let m := Members.ofFields fields
    let early : Reading Unit :=
      match m.find? tag, m.find? content with
      | some (i, _), some (k, j) =>
        if k < i ∧ ¬ isWhole levels j then .fault k .malformed else pure ()
      | none, some (k, j) => if isWhole levels j then pure () else .fault k .malformed
      | _, _ => pure ()
    (Reading.after (Members.audit [tag, content] fields) (.after early (build m false))).finish
  | .array items =>
    (Reading.after (atMost 2 items) (build (.ofItems [tag, content] items) true)).finish
  | j => refuse j

/-- A record with a field `tag` that names its variant among its own fields: the other parts are read
whole, and then as the record of that variant.  In an array the tag comes first. -/
def internallyTagged (tag : String) (levels : Nat) (variants : String → Option (Decoder α)) :
    Decoder α :=
  let named : Decoder (Decoder α) := string.mapPartial variants
  let whole (i : Nat) (j : Json) : Reading Unit :=
    if isWhole levels j then pure () else .fault i .malformed
  let finish (stop : Nat) (rest : Json) (d : Decoder α) : Reading α :=
    .atPosition stop ((d rest).mapError fun _ => .mismatch)
  fun
  | .object fields =>
    let m := Members.ofFields fields
    let others := fields.filter (fun f => f.1 != tag)
    let checked := Reading.all (fields.zipIdx.map fun f =>
      if f.1.1 = tag then
        if (fields.take f.2).any (fun g => g.1 == tag) then .fault f.2 .mismatch else pure ()
      else whole f.2 f.1.2)
    let value : Reading α :=
      match m.find? tag with
      | none => .fault m.stop .mismatch
      | some (i, t) =>
        match named t with
        | .error e => .fault i e
        | .ok d => finish m.stop (.object others) d
    (Reading.after checked value).finish
  | .array [] => .error .mismatch
  | .array (t :: rest) =>
    let checked := Reading.all (rest.zipIdx.map fun j => whole (j.2 + 1) j.1)
    let value : Reading α :=
      match named t with
      | .error e => .fault 0 e
      | .ok d => finish (rest.length + 1) (.array rest) d
    (Reading.after checked value).finish
  | j => refuse j

end Decoder

end PublicationIndicator
