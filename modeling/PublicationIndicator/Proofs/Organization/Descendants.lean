import Mathlib.Data.Set.Lattice
import Mathlib.Data.Set.Pairwise.Lattice
import Mathlib.Order.CompletePartialOrder
import PublicationIndicator.Proofs.Organization.Ancestry

/-!
# PublicationIndicator.Proofs.Organization.Descendants — walking up and walking down

The links of a hierarchy can be followed up, from an organization to the top of its tree, and down, from
an organization to all that are below it.  Both walks tell the same trees
(`Hierarchy.trees_agree`): below an organization are just those of which it is an ancestor; these fall
into the trees of its parts, of which no two meet; and the trees of the organizations without a parent
part all that is mentioned among them, each organization into the tree of its own top.
-/

namespace PublicationIndicator

open Relation

namespace Hierarchy

open Forest

/-- `y` is listed among the organizations below `x`. -/
def Below (h : Hierarchy) (y x : OrganizationId) : Prop :=
  ∃ s, h.subOrganizationsOf x = .ok s ∧ y ∈ s

/-- An organization together with all that are below it. -/
def tree (h : Hierarchy) (x : OrganizationId) : Set OrganizationId :=
  {y | y = x ∨ h.Below y x}

/-- The organizations that have no parent. -/
def roots (h : Hierarchy) : Set OrganizationId :=
  {r | h.contains r = true ∧ h.forest.parent? r = none}

variable {h : Hierarchy} {x y r c : OrganizationId}

theorem below_iff : h.Below y x ↔ TransGen h.forest.PartOf y x := by
  constructor
  · rintro ⟨s, hs, hy⟩
    have hx : h.contains x = true := by
      by_contra hx
      rw [subOrganizationsOf, if_neg hx] at hs
      cases hs
    obtain ⟨s', hs', hmem⟩ := exists_subOrganizationsOf (contains_iff.1 hx)
    obtain rfl : s = s' := Except.ok.inj (hs.symm.trans hs')
    exact (hmem y).1 hy
  · intro hyx
    obtain ⟨s, hs, hmem⟩ := exists_subOrganizationsOf (mem_ids_of_transGen hyx)
    exact ⟨s, hs, (hmem y).2 hyx⟩

theorem mem_tree_iff : y ∈ h.tree x ↔ ReflTransGen h.forest.PartOf y x := by
  rw [reflTransGen_iff_eq_or_transGen, ← below_iff, eq_comm]
  rfl

theorem contains_of_mem_tree (hx : h.contains x = true) (hy : y ∈ h.tree x) :
    h.contains y = true := by
  rw [contains_iff] at hx ⊢
  rcases (mem_tree_iff.1 hy).cases_head with rfl | ⟨p, hp, -⟩
  · exact hx
  · exact h.wellFormed.child_mem _ ((partOf_iff h.wellFormed).1 hp)

/-! ### The parts of an organization -/

theorem exists_directSubOrganizationsOf (hx : h.contains x = true) :
    ∃ d, h.directSubOrganizationsOf x = .ok d ∧ ∀ c, c ∈ d ↔ h.forest.PartOf c x := by
  refine ⟨_, if_pos hx, fun c => ?_⟩
  rw [SortedSet.mem_ofList, mem_parts_iff h.wellFormed]

/-- What is below an organization is one of its parts or below one. -/
theorem transGen_iff_exists_mem_tree :
    TransGen h.forest.PartOf y x ↔ ∃ c, h.forest.PartOf c x ∧ y ∈ h.tree c := by
  simp only [mem_tree_iff, TransGen.tail'_iff, and_comm]

/-- Nothing is below two organizations unless one of these is below the other: what is linked has one
parent. -/
theorem reaches_of_mem_tree_of_mem_tree {c c' : OrganizationId} (hc : y ∈ h.tree c)
    (hc' : y ∈ h.tree c') :
    ReflTransGen h.forest.PartOf c c' ∨ ReflTransGen h.forest.PartOf c' c := by
  have huniq : Relator.RightUnique h.forest.PartOf := by
    intro i p q hp hq
    exact Option.some.inj (hp.symm.trans hq)
  exact ReflTransGen.total_of_right_unique huniq (mem_tree_iff.1 hc) (mem_tree_iff.1 hc')

/-- No part of an organization is below another part. -/
theorem eq_of_reaches_of_siblings {c c' : OrganizationId} (hc : h.forest.PartOf c x)
    (hc' : h.forest.PartOf c' x) (hreach : ReflTransGen h.forest.PartOf c c') : c = c' := by
  rcases hreach.cases_head with rfl | ⟨p, hp, hpc'⟩
  · rfl
  · -- the way up from `c` goes through `x`, and so through `x` again
    obtain rfl : p = x := Option.some.inj (hp.symm.trans hc)
    exact (h.acyclic p (.tail' hpc' hc')).elim

theorem pairwiseDisjoint_tree_parts (h : Hierarchy) (x : OrganizationId) :
    {c | h.forest.PartOf c x}.PairwiseDisjoint h.tree := by
  intro c hc c' hc' hne
  refine Set.disjoint_left.2 fun y hy hy' => hne ?_
  rcases reaches_of_mem_tree_of_mem_tree hy hy' with hreach | hreach
  · exact eq_of_reaches_of_siblings hc hc' hreach
  · exact (eq_of_reaches_of_siblings hc' hc hreach).symm

/-! ### The trees of a hierarchy -/

theorem isTopLevelOf_iff (hy : h.contains y = true) :
    h.isTopLevelOf r y = true ↔ r ∈ h.roots ∧ y ∈ h.tree r := by
  rw [isTopLevelOf, beq_iff_eq, mem_tree_iff]
  constructor
  · intro hr
    obtain ⟨-, hreach, hnone⟩ := root?_eq_some_iff_reaches.1 hr
    exact ⟨⟨contains_iff.2 (mem_ids_of_root? hr), hnone⟩, hreach⟩
  · rintro ⟨⟨-, hnone⟩, hreach⟩
    exact root?_eq_some_iff_reaches.2 ⟨contains_iff.1 hy, hreach, hnone⟩

theorem pairwiseDisjoint_tree_roots (h : Hierarchy) : h.roots.PairwiseDisjoint h.tree := by
  have hroot : ∀ r ∈ h.roots, ∀ r', ReflTransGen h.forest.PartOf r r' → r = r' := by
    intro r hr r' hreach
    rcases hreach.cases_head with rfl | ⟨p, hp, -⟩
    · rfl
    · rw [PartOf, hr.2] at hp
      cases hp
  intro r hr r' hr' hne
  refine Set.disjoint_left.2 fun y hy hy' => hne ?_
  rcases reaches_of_mem_tree_of_mem_tree hy hy' with hreach | hreach
  · exact hroot r hr r' hreach
  · exact (hroot r' hr' r hreach).symm

theorem iUnion_tree_roots (h : Hierarchy) :
    ⋃ r ∈ h.roots, h.tree r = {y | h.contains y = true} := by
  ext y
  rw [Set.mem_iUnion₂]
  constructor
  · rintro ⟨r, hr, hy⟩
    exact contains_of_mem_tree hr.1 hy
  · intro hy
    obtain ⟨r, hr⟩ := contains_iff_exists_root?.1 hy
    obtain ⟨-, hreach, hnone⟩ := root?_eq_some_iff_reaches.1 hr
    exact ⟨r, ⟨contains_iff.2 (mem_ids_of_root? hr), hnone⟩, mem_tree_iff.2 hreach⟩

/-- Walking down from an organization ends and finds those from which walking up comes to it, tree by
tree of its parts; and walking up from an organization ends in the one root in whose tree it is. -/
theorem trees_agree (h : Hierarchy) :
    (∀ x, h.contains x = true → ∃ s d, h.subOrganizationsOf x = .ok s ∧
      h.directSubOrganizationsOf x = .ok d ∧
      (∀ y, y ∈ s ↔ TransGen h.forest.PartOf y x) ∧ x ∉ s ∧
      {y | y ∈ s} = ⋃ c ∈ {c | c ∈ d}, h.tree c ∧ {c | c ∈ d}.PairwiseDisjoint h.tree ∧
      ∀ c ∈ d, h.contains c = true ∧ ¬ h.Below c c) ∧
    (∀ r y, h.contains y = true → (h.isTopLevelOf r y = true ↔ r ∈ h.roots ∧ y ∈ h.tree r)) ∧
    h.roots.PairwiseDisjoint h.tree ∧ ⋃ r ∈ h.roots, h.tree r = {y | h.contains y = true} := by
  refine ⟨fun x hx => ?_, fun r y hy => isTopLevelOf_iff hy, h.pairwiseDisjoint_tree_roots,
    h.iUnion_tree_roots⟩
  obtain ⟨s, hs, hmem⟩ := exists_subOrganizationsOf (contains_iff.1 hx)
  obtain ⟨d, hd, hparts⟩ := exists_directSubOrganizationsOf hx
  have hd' : {c | c ∈ d} = {c | h.forest.PartOf c x} := by
    ext c
    exact hparts c
  refine ⟨s, d, hs, hd, hmem, ?_, ?_, ?_, ?_⟩
  · rw [hmem]
    exact h.acyclic x
  · ext y
    rw [hd', Set.mem_iUnion₂]
    show y ∈ s ↔ _
    rw [hmem, transGen_iff_exists_mem_tree]
    simp only [Set.mem_ofPred_eq, exists_prop]
  · rw [hd']
    exact h.pairwiseDisjoint_tree_parts x
  · intro c hc
    have hcx : h.forest.PartOf c x := (hparts c).1 hc
    rw [contains_iff, below_iff]
    exact ⟨h.wellFormed.child_mem _ ((partOf_iff h.wellFormed).1 hcx), h.acyclic c⟩

end Hierarchy

end PublicationIndicator
