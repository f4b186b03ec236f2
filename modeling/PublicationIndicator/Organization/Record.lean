import PublicationIndicator.Publication.Name

/-!
# PublicationIndicator.Organization.Record — what the registry says of an organization

A record may name the organization's parent, its parts, or both.  The errors here are those of putting
records together and of asking a registry for them.
-/

namespace PublicationIndicator

/-- A registry's record of an organization. -/
structure Organization where
  id : OrganizationId
  /-- The parent that the record declares. -/
  partOf : Option OrganizationId
  /-- The parts that the record declares. -/
  hasPart : List OrganizationId
deriving DecidableEq

namespace Organization

/-- A record without parent and parts. -/
def blank (id : OrganizationId) : Organization := ⟨id, none, []⟩

/-- A record that declares a parent only. -/
def childOf (id parent : OrganizationId) : Organization := ⟨id, some parent, []⟩

/-- The links from a part to its parent that a record declares, its own first. -/
def links (o : Organization) : List (OrganizationId × OrganizationId) :=
  (o.partOf.toList.map fun p => (o.id, p)) ++ o.hasPart.map fun c => (c, o.id)

end Organization

/-- Why records make no hierarchy, or a hierarchy has no answer. -/
inductive HierarchyError where
  | notFound (id : OrganizationId)
  | conflictingParents (id first second : OrganizationId)
  | cycle (id : OrganizationId)
deriving DecidableEq

/-- The error in words. -/
def HierarchyError.message : HierarchyError → String
  | notFound id => s!"organization {id} not found in snapshot"
  | conflictingParents id first second =>
    s!"organization {id} has conflicting parents {first} and {second}"
  | cycle id => s!"organization {id} is part of its own ancestry"

/-- Why a registry does not deliver an affiliation, or a snapshot does not take it. -/
inductive FetchError where
  | notFound (id : OrganizationId)
  | unavailable (reason : String)
  | inconsistent (conflict : HierarchyError)
deriving DecidableEq

/-- The error in words. -/
def FetchError.message : FetchError → String
  | notFound id => s!"organization {id} not found in registry"
  | unavailable reason => s!"organization registry unavailable: {reason}"
  | inconsistent conflict =>
    "organization chain is inconsistent with the snapshot: " ++ conflict.message

/-- Delivers the record of an organization together with those of its ancestors. -/
abbrev OrganizationProvider := OrganizationId → Except FetchError (List Organization)

end PublicationIndicator
