import PublicationIndicator.Proofs.Organization.Arena
import PublicationIndicator.Proofs.Organization.Descendants

/-!
# PublicationIndicator.Proofs.Organization.Walks — following the slots up and down

An arena that represents a hierarchy gives its answers (`Arena.Represents.answersLike`): it always gives
one, as no slot that is referred to is missing and every walk ends.  The walk up follows the slots of
parents, the walk down those of parts.  An arena that is built of records or as a snapshot is sound
(`Arena.Built.sound`), and there both walks tell the same trees (`Arena.walks_agree`).
-/

namespace PublicationIndicator

open Relation

namespace Arena

variable {a : Arena} {f : Forest} {h : Hierarchy} {s : Nat} {i : OrganizationId}

theorem node_eq_ok_iff {n : Node} : a.node s = .ok n ↔ a.nodes[s]? = some n := by
  rw [node]
  cases a.nodes[s]? with
  | none => simp
  | some m => simp

theorem Mirrors.eq_ok {α : Type} {x : Except ArenaError α} {y : α} (h : Mirrors Eq x (.ok y)) :
    x = .ok y := by
  cases h with
  | answered hxy => rw [hxy]

/-! ### Walking down -/

theorem descend_cons {n : Node} (hn : a.nodes[s]? = some n) (found : SortedSet OrganizationId)
    (pending : List Nat) : a.descend found (s :: pending) =
      if n.organization.id ∈ found then a.descend found pending
      else a.descend (found.insert n.organization.id) (n.children.reverse ++ pending) := by
  rw [descend]
  split
  · rename_i hnone
    rw [hn] at hnone
    cases hnone
  · rename_i m hm
    rw [hn] at hm
    cases hm
    rfl

/-- Going down from slots is going down from their names. -/
theorem descend_eq (ha : a.Represents f) (found : SortedSet OrganizationId) {ids : List OrganizationId}
    {slots : List Nat} (hids : slots.map a.id? = ids.map some) :
    a.descend found slots = .ok (f.descend found ids) := by
  fun_induction Forest.descend f found ids generalizing slots with
  | case1 found =>
    obtain rfl : slots = [] := by simpa using hids
    rw [descend]
  | case2 found i ids hmem ih =>
    obtain ⟨s, slots, rfl⟩ := List.exists_cons_of_ne_nil (l := slots) (by rintro rfl; cases hids)
    obtain ⟨hs, hids⟩ := List.cons.inj hids
    obtain ⟨n, hn, horganization, -, -⟩ := exists_node hs
    rw [descend_cons (node_eq_ok_iff.1 hn), horganization, if_pos hmem]
    exact ih hids
  | case3 found i ids hmem ih =>
    obtain ⟨s, slots, rfl⟩ := List.exists_cons_of_ne_nil (l := slots) (by rintro rfl; cases hids)
    obtain ⟨hs, hids⟩ := List.cons.inj hids
    obtain ⟨n, hn, horganization, -, hchildren⟩ := exists_node hs
    rw [descend_cons (node_eq_ok_iff.1 hn), horganization, if_neg hmem]
    refine ih ?_
    rw [List.map_append, List.map_reverse, hchildren, ha.parts_of_slot hs, hids, List.map_append,
      List.map_reverse]

/-! ### Answers -/

/-- The record in a slot is that of its name. -/
theorem Represents.exists_record (ha : a.Represents f) (hs : a.id? s = some i) :
    ∃ n, a.node s = .ok n ∧ n.organization = f.record i ∧ n.children = a.children s := by
  obtain ⟨n, hn, horganization, -, hchildren⟩ := exists_node hs
  refine ⟨n, hn, ?_, hchildren⟩
  have hindex := (ha.sound.index i s).2 hs
  rw [horganization, Forest.record, ← ha.partOf, ← ha.hasPart, hindex]
  rfl

/-- Slots that are taken are read one by one. -/
theorem exists_mapM_node {slots : List Nat} {is : List OrganizationId}
    (his : slots.map a.id? = is.map some) :
    ∃ ns, slots.mapM a.node = .ok ns ∧ ns.map (fun n => n.organization.id) = is := by
  induction slots generalizing is with
  | nil =>
    obtain rfl : is = [] := by simpa using his.symm
    exact ⟨[], rfl, rfl⟩
  | cons s slots ih =>
    cases is with
    | nil => cases his
    | cons i is =>
      obtain ⟨hs, his⟩ := List.cons.inj his
      obtain ⟨n, hn, horganization, -⟩ := exists_node hs
      obtain ⟨ns, hns, hids⟩ := ih his
      refine ⟨n :: ns, ?_, ?_⟩
      · rw [List.mapM_cons, hn, hns]
        rfl
      · rw [List.map_cons, horganization, hids]

/-- An arena answers every question like a hierarchy. -/
structure AnswersLike (a : Arena) (h : Hierarchy) : Prop where
  size : a.size = h.size
  contains : ∀ i, a.contains i = h.contains i
  get : ∀ i, a.get? i = .ok (h.get? i)
  resolve : ∀ i, Mirrors Eq (a.resolveTopLevel i) (h.resolveTopLevel i)
  top : ∀ r i, a.isTopLevelOf r i = .ok (h.isTopLevelOf r i)
  direct : ∀ i, Mirrors Eq (a.directSubOrganizationsOf i) (h.directSubOrganizationsOf i)
  below : ∀ i, Mirrors Eq (a.subOrganizationsOf i) (h.subOrganizationsOf i)

namespace Represents

variable (ha : a.Represents h.forest)
include ha

theorem contains_eq (i : OrganizationId) : a.contains i = h.contains i := by
  rw [Bool.eq_iff_iff, Hierarchy.contains_iff, ha.mem_ids_iff, contains, SortedMap.contains,
    Option.isSome_iff_exists]

/-- A name has a slot with its record, or it is not found. -/
theorem slot_cases (i : OrganizationId) :
    (∃ s n, a.index.get? i = some s ∧ a.slot i = .ok s ∧ a.id? s = some i ∧ a.node s = .ok n ∧
      n.organization = h.forest.record i ∧ n.children.map a.id? = (h.forest.parts i).map some ∧
      h.contains i = true) ∨
    a.index.get? i = none ∧ a.slot i = .error (.refused (.notFound i)) ∧ ¬ h.contains i = true := by
  rw [Hierarchy.contains_iff, ha.mem_ids_iff]
  cases hi : a.index.get? i with
  | none =>
    refine .inr ⟨rfl, ?_, by simp⟩
    rw [slot, hi]
  | some s =>
    have hs := (ha.sound.index i s).1 hi
    obtain ⟨n, hn, horganization, hchildren⟩ := ha.exists_record hs
    refine .inl ⟨s, n, rfl, ?_, hs, hn, horganization, ?_, s, rfl⟩
    · rw [slot, hi]
    · rw [hchildren, ha.parts_of_slot hs]

theorem get?_eq (i : OrganizationId) : a.get? i = .ok (h.get? i) := by
  rw [Arena.get?, Hierarchy.get?]
  obtain ⟨s, n, hi, -, -, hn, horganization, -, hcontains⟩ | ⟨hi, -, hcontains⟩ := ha.slot_cases i
  · rw [hi, if_pos hcontains, ← horganization]
    dsimp only
    rw [hn]
    rfl
  · rw [hi, if_neg hcontains]

/-- The walk up ends at the top. -/
theorem exists_climb (hs : a.id? s = some i) (hcontains : h.contains i = true) :
    ∃ r t, h.root? i = some r ∧ a.climb a.nodes.length s = .ok t ∧ a.id? t = some r := by
  obtain ⟨r, hr⟩ := Hierarchy.contains_iff_exists_root?.1 hcontains
  have hroot := hr
  rw [Hierarchy.root?, if_pos hcontains, Hierarchy.size, ha.length_ids] at hroot
  obtain ⟨hnone, -⟩ | ⟨r', t, hr', ht, hid⟩ := climb_cases ha a.nodes.length hs
  · rw [hroot] at hnone
    cases hnone
  · cases hroot.symm.trans hr'
    exact ⟨r, t, hr, ht, hid⟩

theorem mirrors_resolveTopLevel (i : OrganizationId) :
    Mirrors Eq (a.resolveTopLevel i) (h.resolveTopLevel i) := by
  rw [resolveTopLevel, Hierarchy.resolveTopLevel]
  obtain ⟨s, -, -, hslot, hs, -, -, -, hcontains⟩ | ⟨-, hslot, hcontains⟩ := ha.slot_cases i
  · obtain ⟨r, t, hr, ht, hid⟩ := ha.exists_climb hs hcontains
    obtain ⟨n, hn, horganization, -⟩ := ha.exists_record hid
    rw [hslot, hr]
    dsimp only [bind, Except.bind]
    rw [ht]
    dsimp only
    rw [hn]
    exact .answered horganization
  · have hnone : h.root? i = none := if_neg hcontains
    rw [hslot, hnone]
    exact .refused (.notFound i)

theorem isTopLevelOf_eq (r i : OrganizationId) : a.isTopLevelOf r i = .ok (h.isTopLevelOf r i) := by
  have hresolve := ha.mirrors_resolveTopLevel i
  rw [isTopLevelOf, Hierarchy.isTopLevelOf]
  rw [Hierarchy.resolveTopLevel] at hresolve
  generalize a.resolveTopLevel i = x at hresolve ⊢
  cases hroot : h.root? i with
  | none =>
    rw [hroot] at hresolve
    cases hresolve
    rfl
  | some t =>
    rw [hroot] at hresolve
    cases hresolve with
    | answered ho =>
      rw [ho]
      rfl

theorem mirrors_directSubOrganizationsOf (i : OrganizationId) :
    Mirrors Eq (a.directSubOrganizationsOf i) (h.directSubOrganizationsOf i) := by
  rw [directSubOrganizationsOf, Hierarchy.directSubOrganizationsOf]
  obtain ⟨s, n, -, hslot, -, hn, -, hparts, hcontains⟩ | ⟨-, hslot, hcontains⟩ := ha.slot_cases i
  · obtain ⟨ns, hns, hids⟩ := exists_mapM_node hparts
    rw [hslot, if_pos hcontains]
    dsimp only [bind, Except.bind]
    rw [hn]
    dsimp only
    rw [hns]
    exact .answered (congrArg SortedSet.ofList hids)
  · rw [hslot, if_neg hcontains]
    exact .refused (.notFound i)

theorem mirrors_subOrganizationsOf (i : OrganizationId) :
    Mirrors Eq (a.subOrganizationsOf i) (h.subOrganizationsOf i) := by
  rw [subOrganizationsOf, Hierarchy.subOrganizationsOf]
  obtain ⟨s, n, -, hslot, -, hn, -, hparts, hcontains⟩ | ⟨-, hslot, hcontains⟩ := ha.slot_cases i
  · have hpending : n.children.reverse.map a.id? = (h.forest.parts i).reverse.map some := by
      rw [List.map_reverse, hparts, List.map_reverse]
    rw [hslot, if_pos hcontains]
    dsimp only [bind, Except.bind]
    rw [hn]
    dsimp only
    rw [descend_eq ha .empty hpending]
    exact .answered rfl
  · rw [hslot, if_neg hcontains]
    exact .refused (.notFound i)

theorem answersLike : a.AnswersLike h where
  size := ha.length_ids.symm
  contains := ha.contains_eq
  get := ha.get?_eq
  resolve := ha.mirrors_resolveTopLevel
  top := ha.isTopLevelOf_eq
  direct := ha.mirrors_directSubOrganizationsOf
  below := ha.mirrors_subOrganizationsOf

end Represents

/-! ### Up and down -/

/-- The slot of `y` refers to that of `x` for its parent. -/
def LinkedTo (a : Arena) (y x : OrganizationId) : Prop :=
  ∃ s p, a.index.get? y = some s ∧ a.parent? s = some p ∧ a.id? p = some x

/-- `y` is listed among the organizations below `x`. -/
def Below (a : Arena) (y x : OrganizationId) : Prop := ∃ s, a.subOrganizationsOf x = .ok s ∧ y ∈ s

/-- An organization together with all that are below it. -/
def tree (a : Arena) (x : OrganizationId) : Set OrganizationId := {y | y = x ∨ a.Below y x}

/-- The organizations whose slots refer to no parent. -/
def roots (a : Arena) : Set OrganizationId := {r | ∃ s, a.index.get? r = some s ∧ a.parent? s = none}

/-- An arena is built of a list of records, or as a snapshot of what a provider delivers. -/
def Built (a : Arena) : Prop :=
  (∃ os, ofOrganizations os = .ok a) ∨
    ∃ provider affiliations s, take provider affiliations = .ok s ∧ s.arena = a

/-- What is built represents a hierarchy. -/
theorem Built.exists_hierarchy (h : a.Built) : ∃ k : Hierarchy, a.Represents k.forest := by
  rcases h with ⟨os, hos⟩ | ⟨provider, affiliations, s, hs, rfl⟩
  · have hmirrors := mirrors_ofOrganizations os
    rw [hos] at hmirrors
    generalize Hierarchy.ofOrganizations os = y at hmirrors
    cases hmirrors with
    | answered ha => exact ⟨_, ha⟩
  · obtain ⟨s', hs', hfollows⟩ := exists_take provider affiliations
    cases hs.symm.trans hs'
    exact ⟨_, hfollows.arena⟩

/-- What is built is sound. -/
theorem Built.sound (h : a.Built) : a.Sound := by
  obtain ⟨k, ha⟩ := h.exists_hierarchy
  exact ha.sound

namespace Represents

variable (ha : a.Represents h.forest)
include ha

theorem linkedTo_eq : a.LinkedTo = h.forest.PartOf := by
  funext y x
  rw [LinkedTo, Forest.PartOf, ← ha.partOf, eq_iff_iff, Option.bind_eq_some_iff]
  simp only [ha.sound.partOf, Option.bind_eq_some_iff, exists_and_left]

theorem below_eq : a.Below = h.Below := by
  funext y x
  have hbelow := ha.mirrors_subOrganizationsOf x
  rw [Below, Hierarchy.Below]
  generalize a.subOrganizationsOf x = u, h.subOrganizationsOf x = v at hbelow ⊢
  cases hbelow with
  | refused e => simp
  | answered hst => simp [hst]

theorem tree_eq : a.tree = h.tree := by
  funext x
  rw [tree, Hierarchy.tree, ha.below_eq]

theorem roots_eq : a.roots = h.roots := by
  ext r
  constructor
  · rintro ⟨s, hs, hnone⟩
    have hup := ha.parent_of_slot ((ha.sound.index r s).1 hs)
    rw [hnone] at hup
    exact ⟨Hierarchy.contains_iff.2 (ha.mem_ids_iff.2 ⟨s, hs⟩), hup.symm⟩
  · rintro ⟨hr, hnone⟩
    obtain ⟨s, hs⟩ := ha.mem_ids_iff.1 (Hierarchy.contains_iff.1 hr)
    have hup := ha.parent_of_slot ((ha.sound.index r s).1 hs)
    cases hp : a.parent? s with
    | none => exact ⟨s, hs, hp⟩
    | some p =>
      obtain ⟨i, hi⟩ := ha.sound.exists_parent hp
      rw [hp, Option.bind_some, hi, hnone] at hup
      cases hup

end Represents

/-- The walks up and down tell the same trees. -/
structure WalksAgree (a : Arena) : Prop where
  /-- Walking down from an organization ends.  It finds those from which walking up comes to it, and so never
  the organization itself, tree by tree of its parts. -/
  down : ∀ x, a.contains x = true → ∃ s d, a.subOrganizationsOf x = .ok s ∧
    a.directSubOrganizationsOf x = .ok d ∧
    (∀ y, y ∈ s ↔ TransGen a.LinkedTo y x) ∧ x ∉ s ∧
    {y | y ∈ s} = ⋃ c ∈ {c | c ∈ d}, a.tree c ∧ {c | c ∈ d}.PairwiseDisjoint a.tree ∧
    ∀ c ∈ d, a.contains c = true ∧ ¬ a.Below c c
  /-- Walking up from an organization ends in the root in whose tree it is. -/
  up : ∀ r y, a.contains y = true → ∃ top, a.isTopLevelOf r y = .ok top ∧
    (top = true ↔ r ∈ a.roots ∧ y ∈ a.tree r)
  /-- The trees of the roots part all organizations among them. -/
  disjoint : a.roots.PairwiseDisjoint a.tree
  cover : ⋃ r ∈ a.roots, a.tree r = {y | a.contains y = true}

/-- In an arena that is built of records or as a snapshot, the walks up and down tell the same trees. -/
theorem walks_agree (h : a.Built) : a.WalksAgree := by
  obtain ⟨k, ha⟩ := h.exists_hierarchy
  obtain ⟨hdown, hup, hdisjoint, hcover⟩ := k.trees_agree
  have hcontains : a.contains = k.contains := funext ha.contains_eq
  constructor
  · rw [ha.linkedTo_eq, ha.tree_eq, ha.below_eq, hcontains]
    intro x hx
    obtain ⟨s, d, hs, hd, htrees⟩ := hdown x hx
    have hsub := ha.mirrors_subOrganizationsOf x
    have hdirect := ha.mirrors_directSubOrganizationsOf x
    rw [hs] at hsub
    rw [hd] at hdirect
    exact ⟨s, d, hsub.eq_ok, hdirect.eq_ok, htrees⟩
  · rw [ha.tree_eq, ha.roots_eq, hcontains]
    exact fun r y hy => ⟨_, ha.isTopLevelOf_eq r y, hup r y hy⟩
  · rwa [ha.tree_eq, ha.roots_eq]
  · rwa [ha.tree_eq, ha.roots_eq, hcontains]

/-- Two trees, one of them declared from both ends. -/
theorem walks_agree_two_trees :
    let id (s : String) : OrganizationId := ⟨s⟩
    let os : List Organization :=
      [.childOf (id "a.1") (id "a"), ⟨id "a", none, [id "a.1", id "a.2"]⟩,
        ⟨id "a.1", none, [id "a.1.1"]⟩, .blank (id "b")]
    let a : Arena :=
      ⟨[⟨⟨id "a.1", some (id "a"), [id "a.1.1"]⟩, some 1, [3]⟩,
          ⟨⟨id "a", none, [id "a.1", id "a.2"]⟩, none, [0, 2]⟩,
          ⟨⟨id "a.2", some (id "a"), []⟩, some 1, []⟩,
          ⟨⟨id "a.1.1", some (id "a.1"), []⟩, some 0, []⟩,
          ⟨.blank (id "b"), none, []⟩],
        ⟨[(id "a", 1), (id "a.1", 0), (id "a.1.1", 3), (id "a.2", 2), (id "b", 4)], by decide⟩⟩
    ofOrganizations os = .ok a ∧ a.Built ∧ a.WalksAgree := by
  intro id os a
  have hos : ofOrganizations os = .ok a := by decide
  have hbuilt : a.Built := .inl ⟨os, hos⟩
  exact ⟨hos, hbuilt, walks_agree hbuilt⟩

end Arena

end PublicationIndicator
