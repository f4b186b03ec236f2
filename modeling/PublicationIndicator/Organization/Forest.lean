import PublicationIndicator.Ordered.Set
import PublicationIndicator.Organization.Record

/-!
# PublicationIndicator.Organization.Forest — parts linked to their parents

A `Forest` is what a list of records says when it is taken together: the organizations mentioned, in
the order in which they are first mentioned, and the links from a part to its parent, in the order in
which they are first declared.  An organization has one parent at most.  Nothing here keeps links from
running in a circle; `settled` tells forests in which none does.
-/

namespace PublicationIndicator

/-- Organizations and the links from parts to their parents. -/
structure Forest where
  /-- Every organization mentioned, in the order of first mention. -/
  ids : List OrganizationId
  /-- Part and parent, in the order of first declaration. -/
  links : List (OrganizationId × OrganizationId)
deriving DecidableEq

namespace Forest

/-- Nothing is mentioned. -/
def empty : Forest := ⟨[], []⟩

/-- The parent of an organization. -/
def parent? (f : Forest) (id : OrganizationId) : Option OrganizationId :=
  (f.links.find? (fun l => l.1 = id)).map (·.2)

/-- The parts of an organization, in the order in which they were linked. -/
def parts (f : Forest) (id : OrganizationId) : List OrganizationId :=
  (f.links.filter (fun l => l.2 = id)).map (·.1)

/-- The record of an organization as it is linked. -/
def record (f : Forest) (id : OrganizationId) : Organization := ⟨id, f.parent? id, f.parts id⟩

/-! ### Linking -/

/-- Takes note of an organization. -/
def mention (f : Forest) (id : OrganizationId) : Forest :=
  if id ∈ f.ids then f else { f with ids := f.ids ++ [id] }

/-- Links a part to its parent.  A link may be declared again, but an organization is no part of
itself and has no second parent. -/
def link (f : Forest) (child parent : OrganizationId) : Except HierarchyError Forest :=
  if child = parent then .error (.cycle child)
  else
    let f := (f.mention child).mention parent
    match f.parent? child with
    | none => .ok { f with links := f.links ++ [(child, parent)] }
    | some first =>
      if first = parent then .ok f else .error (.conflictingParents child first parent)

/-- Takes in one record. -/
def add (f : Forest) (o : Organization) : Except HierarchyError Forest :=
  o.links.foldlM (fun f l => f.link l.1 l.2) (f.mention o.id)

/-- Takes in records from first to last. -/
def addAll (f : Forest) (os : List Organization) : Except HierarchyError Forest :=
  os.foldlM add f

/-! ### Walking up and down -/

/-- The top of the tree in which an organization stands, if it is at most `steps` parents away. -/
def root? (f : Forest) : (steps : Nat) → OrganizationId → Option OrganizationId
  | 0, id => if (f.parent? id).isNone then some id else none
  | steps + 1, id =>
    match f.parent? id with
    | none => some id
    | some p => root? f steps p

/-- How many links lead up to organizations that are not among those found. -/
def untraced (f : Forest) (found : SortedSet OrganizationId) : Nat :=
  f.links.countP fun l => l.2 ∉ found

/-- The links up to an organization that is found come down to its parts. -/
theorem untraced_insert {f : Forest} {found : SortedSet OrganizationId} {id : OrganizationId}
    (h : id ∉ found) : f.untraced found = f.untraced (found.insert id) + (f.parts id).length := by
  unfold untraced parts
  rw [List.length_map]
  induction f.links with
  | nil => rfl
  | cons l ls ih =>
    rw [List.countP_cons, List.countP_cons, List.filter_cons, ih]
    by_cases hl : l.2 = id
    · subst hl
      simp [SortedSet.mem_insert, h]
      omega
    · simp [SortedSet.mem_insert, hl]
      omega

/-- Goes down from the organizations that are pending, from the one that came in last, and finds each
of them once. -/
def descend (f : Forest) (found : SortedSet OrganizationId) :
    (pending : List OrganizationId) → SortedSet OrganizationId
  | [] => found
  | id :: pending =>
    if id ∈ found then descend f found pending
    else descend f (found.insert id) ((f.parts id).reverse ++ pending)
termination_by pending => pending.length + f.untraced found
decreasing_by
  · simp
  · rename_i h
    rw [untraced_insert h]
    simp
    omega

/-- The first organization from which the parents go on for longer than there are organizations. -/
def unsettled? (f : Forest) : Option OrganizationId :=
  f.ids.find? (fun id => (f.root? f.ids.length id).isNone)

/-- Takes in records and checks that no links run in a circle. -/
def extend (f : Forest) (os : List Organization) : Except HierarchyError Forest :=
  match f.addAll os with
  | .error e => .error e
  | .ok g =>
    match g.unsettled? with
    | some id => .error (.cycle id)
    | none => .ok g

/-- Records taken in one after the other are taken in as one list. -/
theorem addAll_append (f : Forest) (os os' : List Organization) :
    f.addAll (os ++ os') = (f.addAll os >>= fun g => g.addAll os') := by
  simp [addAll, List.foldlM_append]

/-- What is extended took all the records in. -/
theorem addAll_of_extend {f g : Forest} {os : List Organization} (h : f.extend os = .ok g) :
    f.addAll os = .ok g := by
  rw [extend] at h
  split at h
  · cases h
  · split at h
    · cases h
    · cases h
      assumption

/-- Records that follow those taken in extend a forest as if all had come at once. -/
theorem extend_append_of_addAll {f g : Forest} {os : List Organization} (hg : f.addAll os = .ok g)
    (os' : List Organization) : f.extend (os ++ os') = g.extend os' := by
  rw [extend, addAll_append, hg]
  rfl

/-- A forest that was extended twice could have been extended once. -/
theorem extend_append {f g h : Forest} {os os' : List Organization} (hg : f.extend os = .ok g)
    (hh : g.extend os' = .ok h) : f.extend (os ++ os') = .ok h :=
  (extend_append_of_addAll (addAll_of_extend hg) os').trans hh

end Forest

end PublicationIndicator
