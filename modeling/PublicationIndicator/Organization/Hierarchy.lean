import PublicationIndicator.Organization.Forest
import PublicationIndicator.Ordered.Set

/-!
# PublicationIndicator.Organization.Hierarchy — trees of organizations

A `Hierarchy` is a forest that some list of records declares and in which no links run in a circle, so
that every organization in it stands in a tree with a top.
-/

namespace PublicationIndicator

/-- A forest of organizations without circles. -/
structure Hierarchy where
  forest : Forest
  /-- Some list of records declares the forest. -/
  declared : ∃ os, Forest.empty.extend os = .ok forest

namespace Hierarchy

/-- The hierarchy without organizations. -/
def empty : Hierarchy := ⟨.empty, [], rfl⟩

/-- The hierarchy that takes in more records. -/
def extend (h : Hierarchy) (os : List Organization) : Except HierarchyError Hierarchy :=
  match hf : h.forest.extend os with
  | .ok f => .ok ⟨f, h.declared.elim fun os' hos' => ⟨os' ++ os, Forest.extend_append hos' hf⟩⟩
  | .error e => .error e

/-- The hierarchy that a list of records declares. -/
def ofOrganizations (os : List Organization) : Except HierarchyError Hierarchy := empty.extend os

/-! ### Questions -/

/-- How many organizations there are. -/
def size (h : Hierarchy) : Nat := h.forest.ids.length

/-- Is the organization mentioned? -/
def contains (h : Hierarchy) (id : OrganizationId) : Bool := id ∈ h.forest.ids

/-- The record of an organization as it is linked. -/
def get? (h : Hierarchy) (id : OrganizationId) : Option Organization :=
  if h.contains id then some (h.forest.record id) else none

/-- The top of the tree in which an organization stands. -/
def root? (h : Hierarchy) (id : OrganizationId) : Option OrganizationId :=
  if h.contains id then h.forest.root? h.size id else none

/-- The record at the top of the tree in which an organization stands. -/
def resolveTopLevel (h : Hierarchy) (id : OrganizationId) : Except HierarchyError Organization :=
  match h.root? id with
  | some r => .ok (h.forest.record r)
  | none => .error (.notFound id)

/-- Is `root` the top of the tree in which the organization stands? -/
def isTopLevelOf (h : Hierarchy) (root id : OrganizationId) : Bool := h.root? id == some root

/-- The parts of an organization. -/
def directSubOrganizationsOf (h : Hierarchy) (id : OrganizationId) :
    Except HierarchyError (SortedSet OrganizationId) :=
  if h.contains id then .ok (.ofList (h.forest.parts id)) else .error (.notFound id)

/-- Every organization below another, at any depth. -/
def subOrganizationsOf (h : Hierarchy) (id : OrganizationId) :
    Except HierarchyError (SortedSet OrganizationId) :=
  if h.contains id then .ok (h.forest.descend .empty (h.forest.parts id).reverse)
  else .error (.notFound id)

end Hierarchy

end PublicationIndicator
