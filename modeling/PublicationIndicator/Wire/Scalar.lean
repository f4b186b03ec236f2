import PublicationIndicator.Decimal.Text
import PublicationIndicator.Instant.Text
import PublicationIndicator.Json.Decode
import PublicationIndicator.Ordered.Map
import PublicationIndicator.Ordered.Set
import PublicationIndicator.Publication.Name

/-!
# PublicationIndicator.Wire.Scalar — names, numbers, dates and collections in documents

Names, decimals and instants are written as strings; a decimal may also be read from a number.
Sets are arrays in order, maps with named entries are objects.
-/

namespace PublicationIndicator

open Decoder

/-! ### Names -/

/-- The name as a string. -/
def OrganizationId.toJson (id : OrganizationId) : Json := .string id.text

/-- An organization's name. -/
def OrganizationId.decoder : Decoder OrganizationId := string.map .mk

/-- The name as a string. -/
def PublicationId.toJson (id : PublicationId) : Json := .string id.text

/-- A publication's name. -/
def PublicationId.decoder : Decoder PublicationId := string.map .mk

/-- The name as a string. -/
def CandidateId.toJson (id : CandidateId) : Json := .string id.text

/-- A candidate's name. -/
def CandidateId.decoder : Decoder CandidateId := string.map .mk

/-- The name as a string. -/
def Username.toJson (u : Username) : Json := .string u.text

/-- A person's name. -/
def Username.decoder : Decoder Username := string.map .mk

/-! ### Numbers and dates -/

/-- A version is a number of 64 bits. -/
def versionDecoder : Decoder Nat := natBelow 18446744073709551616

/-- A count is a number of 32 bits. -/
def countDecoder : Decoder Nat := natBelow 4294967296

/-- The decimal as a string. -/
def Decimal.toJson (d : Decimal) : Json := .string d.text

/-- The decimal that a text holds, with an exponent or without. -/
def Decimal.ofNotation? (s : String) : Option Decimal :=
  (Decimal.ofText? s).or (Decimal.ofScientificText? s)

/-- The decimal nearest to a number. -/
def Decimal.ofNumber? : JsonNumber → Option Decimal
  | .whole n => Decimal.ofInt? n
  | n => Decimal.ofText? n.text

/-- A decimal: a string or a number. -/
def Decimal.decoder : Decoder Decimal
  | .string s => (Decimal.ofNotation? s).elim (.error .mismatch) .ok
  | .number n => (Decimal.ofNumber? n).elim (.error .mismatch) .ok
  | j => refuse j

/-- The instant as a string. -/
def Instant.toJson (t : Instant) : Json := .string t.text

/-- An instant. -/
def Instant.decoder : Decoder Instant := string.mapPartial Instant.ofText?

/-! ### Collections -/

/-- The elements in order. -/
def SortedSet.toJson {κ : Type} [Keyed κ] (f : κ → Json) (s : SortedSet κ) : Json :=
  .array (s.toList.map f)

/-- A set, from its elements in any order. -/
def SortedSet.decoder {κ : Type} [Keyed κ] (d : Decoder κ) : Decoder (SortedSet κ) :=
  (list d).map .ofList

/-- The entries in order of their keys. -/
def SortedMap.toJson {κ α : Type} [Keyed κ] (f : α → Json) (m : SortedMap κ α) : Json :=
  .object (m.entries.map fun e => (key e.1, f e.2))

/-- Named values, the last of those with one name.  The names are not keys of a record: they may come
in any number. -/
def namedValues {α : Type} (d : Decoder α) : Decoder (List (String × α))
  | .object fields => fields.mapM fun f => (d f.2).map fun a => (f.1, a)
  | j => refuse j

/-- A map, from its entries in any order; of two with one key the last counts. -/
def SortedMap.decoder {κ α : Type} [Keyed κ] (name : String → κ) (d : Decoder α) :
    Decoder (SortedMap κ α) :=
  (namedValues d).map fun es => .ofList (es.map fun e => (name e.1, e.2))

/-- A field that is written only if there is something to write. -/
def fieldOf {α : Type} (name : String) (f : α → Json) (o : Option α) : List (String × Json) :=
  (o.map fun a => (name, f a)).toList

end PublicationIndicator
