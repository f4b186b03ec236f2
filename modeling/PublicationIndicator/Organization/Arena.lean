import PublicationIndicator.Ordered.Map
import PublicationIndicator.Ordered.Set
import PublicationIndicator.Organization.Record

/-!
# PublicationIndicator.Organization.Arena — organizations in numbered slots

An `Arena` keeps each organization in a slot, and an index finds the slot of a name.  A link is written
down four times: the part's slot refers to the parent's and the parent's to the part's, and the records of
both name each other.  The walks follow the slots: up by the parents, down by the parts.  A `Forest` says
the same with one list of links.
-/

namespace PublicationIndicator

/-- What stands in a slot. -/
structure Arena.Node where
  organization : Organization
  /-- The slot of the parent. -/
  parent : Option Nat
  /-- The slots of the parts, in the order in which they were linked. -/
  children : List Nat
deriving DecidableEq

/-- Organizations in numbered slots, and the slot of each name. -/
structure Arena where
  nodes : List Arena.Node
  index : SortedMap OrganizationId Nat
deriving DecidableEq

/-- Why an arena does not answer: it refuses records or a name, there is no such slot, or a walk does not
end. -/
inductive ArenaError where
  | refused (error : HierarchyError)
  | dangling (slot : Nat)
  | endless
deriving DecidableEq

namespace Arena

/-- No slot is taken. -/
def empty : Arena := ⟨[], .empty⟩

/-- What stands in a slot. -/
def node (a : Arena) (slot : Nat) : Except ArenaError Node :=
  match a.nodes[slot]? with
  | some n => .ok n
  | none => .error (.dangling slot)

/-- The slot of a name. -/
def slot (a : Arena) (id : OrganizationId) : Except ArenaError Nat :=
  match a.index.get? id with
  | some s => .ok s
  | none => .error (.refused (.notFound id))

/-! ### Linking -/

/-- Gives the next slot to a name. -/
def push (a : Arena) (id : OrganizationId) : Arena :=
  ⟨a.nodes ++ [⟨.blank id, none, []⟩], a.index.insert id a.nodes.length⟩

/-- Finds the slot of a name, or gives it one. -/
def ensure (a : Arena) (id : OrganizationId) : Arena × Nat :=
  match a.index.get? id with
  | some s => (a, s)
  | none => (a.push id, a.nodes.length)

/-- Changes what stands in a slot. -/
def modify (a : Arena) (slot : Nat) (f : Node → Node) : Arena :=
  { a with nodes := a.nodes.modify slot f }

/-- Gets a parent, by slot and by name. -/
def Node.setParent (slot : Nat) (id : OrganizationId) (n : Node) : Node :=
  { n with parent := some slot, organization := { n.organization with partOf := some id } }

/-- Gets one more part, by slot and by name. -/
def Node.addChild (slot : Nat) (id : OrganizationId) (n : Node) : Node :=
  { n with
    children := n.children ++ [slot]
    organization := { n.organization with
      hasPart := if id ∈ n.organization.hasPart then n.organization.hasPart
        else n.organization.hasPart ++ [id] } }

/-- Writes a link down, in the slot of the part and in that of the parent. -/
def join (a : Arena) (childSlot parentSlot : Nat) (child parent : OrganizationId) : Arena :=
  (a.modify childSlot (.setParent parentSlot parent)).modify parentSlot (.addChild childSlot child)

/-- Links the part in one slot to the parent in another, unless it has a parent. -/
def linkSlots (a : Arena) (childSlot parentSlot : Nat) (child parent : OrganizationId) :
    Except ArenaError Arena := do
  match (← a.node childSlot).parent with
  | some existing =>
    if existing = parentSlot then return a
    let first ← a.node existing
    throw (.refused (.conflictingParents child first.organization.id parent))
  | none =>
    let _ ← a.node parentSlot
    return a.join childSlot parentSlot child parent

/-- Links a part to its parent.  A link may be declared again, but an organization is no part of
itself and has no second parent. -/
def link (a : Arena) (child parent : OrganizationId) : Except ArenaError Arena :=
  if child = parent then .error (.refused (.cycle child))
  else
    let (a, childSlot) := a.ensure child
    let (a, parentSlot) := a.ensure parent
    a.linkSlots childSlot parentSlot child parent

/-- Takes in one record. -/
def add (a : Arena) (o : Organization) : Except ArenaError Arena :=
  o.links.foldlM (fun a l => a.link l.1 l.2) (a.ensure o.id).1

/-! ### Walking up -/

/-- The slot at the top of the tree in which a slot stands, if it is at most `steps` parents away. -/
def climb (a : Arena) : (steps : Nat) → (slot : Nat) → Except ArenaError Nat
  | 0, s => do
    match (← a.node s).parent with
    | none => return s
    | some _ => throw .endless
  | steps + 1, s => do
    match (← a.node s).parent with
    | none => return s
    | some p => climb a steps p

/-- Fails if the parents of a slot go on for longer than there are slots. -/
def checkFrom (a : Arena) (start : Nat) : Except ArenaError Unit :=
  match a.climb a.nodes.length start with
  | .ok _ => .ok ()
  | .error .endless => do throw (.refused (.cycle (← a.node start).organization.id))
  | .error e => .error e

/-- Fails if the parents of some slot do, and names the first. -/
def checkAcyclic (a : Arena) : Except ArenaError Unit :=
  (List.range a.nodes.length).forM a.checkFrom

/-- Takes in records and checks that no links run in a circle. -/
def extend (a : Arena) (os : List Organization) : Except ArenaError Arena := do
  let a ← os.foldlM add a
  a.checkAcyclic
  return a

/-- The arena that a list of records declares. -/
def ofOrganizations (os : List Organization) : Except ArenaError Arena := empty.extend os

/-! ### Walking down -/

/-- How many parts wait to be traced: those of what is not among the organizations found. -/
def Node.untraced (found : SortedSet OrganizationId) (n : Node) : Nat :=
  if n.organization.id ∈ found then 0 else n.children.length

/-- How many parts wait to be traced in all of the nodes. -/
def untraced (found : SortedSet OrganizationId) : List Node → Nat
  | [] => 0
  | n :: l => n.untraced found + untraced found l

theorem Node.untraced_insert_le (found : SortedSet OrganizationId) (id : OrganizationId) (n : Node) :
    n.untraced (found.insert id) ≤ n.untraced found := by
  rw [untraced, untraced]
  by_cases hn : n.organization.id ∈ found
  · have hkept : n.organization.id ∈ found.insert id := SortedSet.mem_insert.2 (.inr hn)
    simp only [if_pos hn, if_pos hkept, Nat.le_refl]
  · rw [if_neg hn]
    split <;> omega

theorem untraced_insert_le (found : SortedSet OrganizationId) (id : OrganizationId) (l : List Node) :
    untraced (found.insert id) l ≤ untraced found l := by
  induction l with
  | nil => exact Nat.le_refl 0
  | cons n l ih => exact Nat.add_le_add (n.untraced_insert_le found id) ih

/-- The parts of what is found do not wait any longer. -/
theorem untraced_insert {l : List Node} {found : SortedSet OrganizationId} {n : Node} (hn : n ∈ l)
    (hnew : n.organization.id ∉ found) :
    n.children.length + untraced (found.insert n.organization.id) l ≤ untraced found l := by
  induction l with
  | nil => cases hn
  | cons m l ih =>
    rw [untraced, untraced]
    rcases List.mem_cons.1 hn with rfl | hn
    · have hrest := untraced_insert_le found n.organization.id l
      have hbefore : n.untraced found = n.children.length := if_neg hnew
      have hafter : n.untraced (found.insert n.organization.id) = 0 :=
        if_pos (SortedSet.mem_insert.2 (.inl rfl))
      omega
    · have hfirst := m.untraced_insert_le found n.organization.id
      have hrest := ih hn
      omega

/-- Goes down from the slots that are pending, from the one that came in last, and finds each organization
once. -/
def descend (a : Arena) (found : SortedSet OrganizationId) :
    (pending : List Nat) → Except ArenaError (SortedSet OrganizationId)
  | [] => .ok found
  | s :: pending =>
    match _hn : a.nodes[s]? with
    | none => .error (.dangling s)
    | some n =>
      if n.organization.id ∈ found then descend a found pending
      else descend a (found.insert n.organization.id) (n.children.reverse ++ pending)
termination_by pending => pending.length + untraced found a.nodes
decreasing_by
  · simp
  · rename_i hnew
    have hless := untraced_insert (List.mem_of_getElem? _hn) hnew
    simp only [List.length_append, List.length_unattach, List.length_reverse,
      List.length_attach, List.length_cons]
    omega

/-! ### Questions -/

/-- How many organizations there are. -/
def size (a : Arena) : Nat := a.nodes.length

/-- Is the organization mentioned? -/
def contains (a : Arena) (id : OrganizationId) : Bool := a.index.contains id

/-- The record of an organization as it is linked. -/
def get? (a : Arena) (id : OrganizationId) : Except ArenaError (Option Organization) :=
  match a.index.get? id with
  | none => .ok none
  | some s => do return some (← a.node s).organization

/-- The record at the top of the tree in which an organization stands. -/
def resolveTopLevel (a : Arena) (id : OrganizationId) : Except ArenaError Organization := do
  let top ← a.climb a.nodes.length (← a.slot id)
  return (← a.node top).organization

/-- Is `root` the top of the tree in which the organization stands? -/
def isTopLevelOf (a : Arena) (root id : OrganizationId) : Except ArenaError Bool :=
  match a.resolveTopLevel id with
  | .ok o => .ok (o.id == root)
  | .error (.refused _) => .ok false
  | .error e => .error e

/-- The parts of an organization. -/
def directSubOrganizationsOf (a : Arena) (id : OrganizationId) :
    Except ArenaError (SortedSet OrganizationId) := do
  let children ← (← a.node (← a.slot id)).children.mapM a.node
  return .ofList (children.map fun n => n.organization.id)

/-- Every organization below another, at any depth. -/
def subOrganizationsOf (a : Arena) (id : OrganizationId) :
    Except ArenaError (SortedSet OrganizationId) := do
  a.descend .empty (← a.node (← a.slot id)).children.reverse

/-! ### Snapshots -/

/-- What a provider delivered for some affiliations, and which of them failed why. -/
structure Snapshot where
  arena : Arena
  failures : List (OrganizationId × FetchError)

/-- Takes in what was delivered for an affiliation. -/
def Snapshot.receive (s : Snapshot) (id : OrganizationId)
    (answer : Except FetchError (List Organization)) : Except ArenaError Snapshot :=
  match answer with
  | .error e => .ok { s with failures := s.failures ++ [(id, e)] }
  | .ok chain =>
    match s.arena.extend chain with
    | .ok a => .ok { s with arena := a }
    | .error (.refused e) => .ok { s with failures := s.failures ++ [(id, .inconsistent e)] }
    | .error e => .error e

/-- A snapshot in the making, and the affiliations that were asked for. -/
structure Inquiry where
  requested : SortedSet OrganizationId
  snapshot : Snapshot

/-- Asks for one affiliation, unless it was asked for before. -/
def Inquiry.ask (provider : OrganizationProvider) (q : Inquiry) (id : OrganizationId) :
    Except ArenaError Inquiry :=
  if id ∈ q.requested then .ok q
  else do return ⟨q.requested.insert id, ← q.snapshot.receive id (provider id)⟩

/-- Asks a provider for each of the affiliations. -/
def take (provider : OrganizationProvider) (affiliations : List OrganizationId) :
    Except ArenaError Snapshot := do
  return (← affiliations.foldlM (Inquiry.ask provider) ⟨.empty, .empty, []⟩).snapshot

end Arena

end PublicationIndicator
