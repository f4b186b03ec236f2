import PublicationIndicator.Organization.Record
import PublicationIndicator.Ordered.Map

/-!
# PublicationIndicator.Organization.Registry — a registry held in memory

The registry keeps one record for each organization.  It answers with the chain of records from an
organization up through its parents.
-/

namespace PublicationIndicator

/-- One record for each organization. -/
structure OrganizationRegistry where
  records : SortedMap OrganizationId Organization
deriving DecidableEq

namespace OrganizationRegistry

/-- The registry without records. -/
def empty : OrganizationRegistry := ⟨.empty⟩

/-- The record kept for an organization, or a blank one. -/
def recordOrBlank (r : OrganizationRegistry) (id : OrganizationId) : Organization :=
  (r.records.get? id).getD (.blank id)

/-- Keeps a record under its own name. -/
def put (r : OrganizationRegistry) (o : Organization) : OrganizationRegistry :=
  ⟨r.records.insert o.id o⟩

/-- Takes `whole` for the parent of `part`, unless a parent is known. -/
def adopt (whole : OrganizationId) (r : OrganizationRegistry) (part : OrganizationId) :
    OrganizationRegistry :=
  let o := r.recordOrBlank part
  r.put { o with partOf := some (o.partOf.getD whole) }

/-- Takes in a record: its parts get it for a parent if they have none, its own parent counts against
one known before, and its list of parts replaces an earlier one. -/
def register (r : OrganizationRegistry) (o : Organization) : OrganizationRegistry :=
  let r := o.hasPart.foldl (adopt o.id) r
  let kept := r.recordOrBlank o.id
  r.put { id := o.id, partOf := o.partOf.or kept.partOf, hasPart := o.hasPart }

/-- The registry of a list of records, taken in from first to last. -/
def ofOrganizations (os : List Organization) : OrganizationRegistry := os.foldl register empty

/-- How many organizations have a record. -/
def size (r : OrganizationRegistry) : Nat := r.records.size

/-! ### Chains -/

/-- The records from `id` up through the parents to one without parent, or to one whose parent is in
the chain already: `seen` are the records below `id`.  The number of steps bounds the chain. -/
def chainFrom (r : OrganizationRegistry) : (steps : Nat) → (seen : List Organization) →
    OrganizationId → Except FetchError (List Organization)
  | 0, seen, _ => .ok seen
  | steps + 1, seen, id =>
    if seen.any (fun o => o.id = id) then .ok seen
    else
      match r.records.get? id with
      | none => .error (.notFound id)
      | some o =>
        match o.partOf with
        | none => .ok (seen ++ [o])
        | some p => chainFrom r steps (seen ++ [o]) p

/-- The record of an organization followed by those of its ancestors. -/
def fetch (r : OrganizationRegistry) : OrganizationProvider := fun id =>
  r.chainFrom (r.size + 1) [] id

/-- The registry that is used when no other is given. -/
def sample : OrganizationRegistry :=
  let uio : OrganizationId := ⟨"https://org.example/uio"⟩
  let uioMed : OrganizationId := ⟨"https://org.example/uio/med"⟩
  let ntnu : OrganizationId := ⟨"https://org.example/ntnu"⟩
  ofOrganizations [
    .blank uio,
    .childOf uioMed uio,
    .childOf ⟨"https://org.example/uio/med/cardio"⟩ uioMed,
    .blank ntnu,
    .childOf ⟨"https://org.example/ntnu/ie"⟩ ntnu,
    .blank ⟨"https://org.example/sintef"⟩]

end OrganizationRegistry

/-- A provider that does not answer for some organizations, and answers for others with records given
beforehand. -/
def OrganizationProvider.overriding (p : OrganizationProvider)
    (unavailable : List (OrganizationId × String))
    (chains : List (OrganizationId × List Organization)) : OrganizationProvider := fun id =>
  match unavailable.find? (fun e => e.1 = id), chains.find? (fun e => e.1 = id) with
  | some e, _ => .error (.unavailable e.2)
  | none, some e => .ok e.2
  | none, none => p id

end PublicationIndicator
