import Mathlib.Data.Fintype.Card
import Mathlib.Data.Fintype.EquivFin
import Mathlib.Data.Fintype.Sets
import Mathlib.Logic.Relation
import PublicationIndicator.Proofs.Organization.Lineage

/-!
# PublicationIndicator.Proofs.Organization.Ancestry — parents of parents

`Forest.PartOf f c p` says that `c` is linked to the parent `p`.  In a forest everything has a lineage
if and only if nothing is part of its own ancestry (`lineages_iff_acyclic`): as there are finitely many
organizations, the links up from each of them must end.  So in a hierarchy the top of an organization is
the ancestor without a parent (`Hierarchy.root?_eq_some_iff_reaches`), and the organizations below
another one are those of which it is an ancestor (`Hierarchy.exists_subOrganizationsOf`).
-/

namespace PublicationIndicator

open Relation

namespace Forest

/-- `c` is linked to the parent `p`. -/
def PartOf (f : Forest) (c p : OrganizationId) : Prop := f.parent? c = some p

variable {f : Forest} {id c p r a : OrganizationId} {l l' : List OrganizationId}

theorem partOf_iff (hf : f.WellFormed) : f.PartOf c p ↔ (c, p) ∈ f.links :=
  parent?_eq_some_iff hf

theorem mem_parts_iff (hf : f.WellFormed) : c ∈ f.parts p ↔ f.PartOf c p := by
  rw [partOf_iff hf, parts, List.mem_map]
  constructor
  · rintro ⟨⟨c', p'⟩, hl, rfl⟩
    obtain ⟨hmem, hp⟩ := List.mem_filter.1 hl
    have hp' : p' = p := by simpa using hp
    rwa [hp'] at hmem
  · intro hl
    exact ⟨(c, p), List.mem_filter.2 ⟨hl, by simp⟩, rfl⟩

theorem nodup_parts (hf : f.WellFormed) (p : OrganizationId) : (f.parts p).Nodup := by
  have hsub : ((f.links.filter fun l => l.2 = p).map (·.1)).Sublist (f.links.map (·.1)) :=
    List.filter_sublist.map _
  exact hf.single.sublist hsub

/-! ### Lineages and ancestors -/

theorem Lineage.reaches (h : f.Lineage id l) (hr : l.getLast? = some r) :
    ReflTransGen f.PartOf id r ∧ f.parent? r = none := by
  induction h with
  | @top id hnone =>
    obtain rfl : id = r := by simpa using hr
    exact ⟨.refl, hnone⟩
  | @up id p l hsome rest ih =>
    rw [rest.getLast?_cons] at hr
    obtain ⟨hreach, hnone⟩ := ih hr
    exact ⟨.head hsome hreach, hnone⟩

/-- An ancestor has a shorter lineage. -/
theorem Lineage.length_lt (ha : TransGen f.PartOf a r) (h : f.Lineage a l) (h' : f.Lineage r l') :
    l'.length < l.length := by
  induction ha using TransGen.head_induction_on generalizing l with
  | single hstep =>
    obtain ⟨l, rfl, rest⟩ := (lineage_iff_of_some hstep).1 h
    rw [rest.unique h', List.length_cons]
    omega
  | head hstep _ ih =>
    obtain ⟨l, rfl, rest⟩ := (lineage_iff_of_some hstep).1 h
    have hlt := ih rest
    rw [List.length_cons]
    omega

/-- Ancestors have lineages. -/
theorem Lineage.exists_of_reaches (ha : ReflTransGen f.PartOf id a) (h : f.Lineage id l) :
    ∃ l', f.Lineage a l' := by
  induction ha using ReflTransGen.head_induction_on generalizing l with
  | refl => exact ⟨l, h⟩
  | head hstep _ ih =>
    obtain ⟨l', -, rest⟩ := (lineage_iff_of_some hstep).1 h
    exact ih rest

/-- The links up from an organization end if they do not lead into a circle. -/
theorem exists_lineage_of_acyclic (hf : f.WellFormed)
    (hacyclic : ∀ i, ReflTransGen f.PartOf id i → ¬ TransGen f.PartOf i i)
    (hid : id ∈ f.ids) : ∃ l, f.Lineage id l := by
  -- there are finitely many organizations, so that ancestry outside of circles is well-founded
  let above : {i // i ∈ f.ids} → {i // i ∈ f.ids} → Prop := fun p c =>
    TransGen f.PartOf c p ∧ ¬ TransGen f.PartOf p.1 p.1
  have hirrefl : Std.Irrefl above := ⟨fun i hi => hi.2 hi.1⟩
  have htrans : IsTrans {i // i ∈ f.ids} above := ⟨fun _ _ _ h h' => ⟨h'.1.trans h.1, h.2⟩⟩
  have hwf : WellFounded above := Finite.wellFounded_of_trans_of_irrefl above
  suffices hall : ∀ i : {i // i ∈ f.ids},
      (∀ j, ReflTransGen f.PartOf i j → ¬ TransGen f.PartOf j j) → ∃ l, f.Lineage i l from
    hall ⟨id, hid⟩ hacyclic
  intro i
  induction i using hwf.induction with
  | _ i ih =>
    intro hi
    cases hp : f.parent? i with
    | none => exact ⟨_, .top hp⟩
    | some p =>
      have hmem : p ∈ f.ids := hf.parent_mem _ ((parent?_eq_some_iff hf).1 hp)
      obtain ⟨l, hl⟩ := ih ⟨p, hmem⟩ ⟨.single hp, hi p (.single hp)⟩ fun j hj => hi j (.head hp hj)
      exact ⟨_, .up hp hl⟩

/-- An organization has a lineage if and only if its parents do not lead into a circle. -/
theorem exists_lineage_iff (hf : f.WellFormed) (hid : id ∈ f.ids) :
    (∃ l, f.Lineage id l) ↔ ∀ i, ReflTransGen f.PartOf id i → ¬ TransGen f.PartOf i i := by
  constructor
  · rintro ⟨l, hl⟩ i hreach hcycle
    obtain ⟨l', hl'⟩ := hl.exists_of_reaches hreach
    have hlt := Lineage.length_lt hcycle hl' hl'
    omega
  · intro hacyclic
    exact exists_lineage_of_acyclic hf hacyclic hid

/-- Everything has a lineage if and only if nothing is part of its own ancestry. -/
theorem lineages_iff_acyclic (hf : f.WellFormed) :
    (∀ id ∈ f.ids, ∃ l, f.Lineage id l) ↔ ∀ i, ¬ TransGen f.PartOf i i := by
  constructor
  · intro hall i hcycle
    obtain ⟨p, hp, -⟩ := TransGen.head'_iff.1 hcycle
    have hmem : i ∈ f.ids := hf.child_mem _ ((partOf_iff hf).1 hp)
    exact (exists_lineage_iff hf hmem).1 (hall i hmem) i .refl hcycle
  · intro hacyclic id hid
    exact exists_lineage_of_acyclic hf (fun i _ => hacyclic i) hid

/-! ### Going down -/

/-- What is found stays found, and what is pending will be. -/
theorem mem_descend_of_mem {found : SortedSet OrganizationId} {pending : List OrganizationId}
    (ha : a ∈ found ∨ a ∈ pending) : a ∈ f.descend found pending := by
  fun_induction descend f found pending with
  | case1 found => simpa using ha
  | case2 found id pending hid ih =>
    apply ih
    rw [List.mem_cons] at ha
    rcases ha with ha | rfl | ha
    · exact .inl ha
    · exact .inl hid
    · exact .inr ha
  | case3 found id pending hid ih =>
    apply ih
    rw [SortedSet.mem_insert, List.mem_append]
    rw [List.mem_cons] at ha
    tauto

/-- With each organization that is found, its parts are found. -/
theorem mem_descend_of_mem_parts {found : SortedSet OrganizationId} {pending : List OrganizationId}
    (hparts : ∀ i ∈ found, ∀ c ∈ f.parts i, c ∈ found ∨ c ∈ pending)
    (ha : a ∈ f.descend found pending) (hc : c ∈ f.parts a) : c ∈ f.descend found pending := by
  fun_induction descend f found pending with
  | case1 found => simpa using hparts a ha c hc
  | case2 found id pending hid ih =>
    refine ih (fun i hi c hc => ?_) ha
    rcases hparts i hi c hc with hc | hc
    · exact .inl hc
    · rw [List.mem_cons] at hc
      rcases hc with rfl | hc
      · exact .inl hid
      · exact .inr hc
  | case3 found id pending hid ih =>
    -- the organization is found now, and its parts are pending
    refine ih (fun i hi c hc => ?_) ha
    rw [SortedSet.mem_insert] at hi
    rw [SortedSet.mem_insert, List.mem_append, List.mem_reverse]
    rcases hi with rfl | hi
    · exact .inr (.inl hc)
    · have hold := hparts i hi c hc
      rw [List.mem_cons] at hold
      tauto

/-- Nothing is found but what was found or pending, and parts of it. -/
theorem of_mem_descend {P : OrganizationId → Prop} (hstep : ∀ i, P i → ∀ c ∈ f.parts i, P c)
    {found : SortedSet OrganizationId} {pending : List OrganizationId}
    (hfound : ∀ i ∈ found, P i) (hpending : ∀ i ∈ pending, P i)
    (ha : a ∈ f.descend found pending) : P a := by
  fun_induction descend f found pending with
  | case1 found => exact hfound a ha
  | case2 found id pending hid ih =>
    exact ih hfound (fun i hi => hpending i (List.mem_cons_of_mem _ hi)) ha
  | case3 found id pending hid ih =>
    have hid' : P id := hpending id List.mem_cons_self
    apply ih _ _ ha
    · intro i hi
      rw [SortedSet.mem_insert] at hi
      rcases hi with rfl | hi
      · exact hid'
      · exact hfound i hi
    · intro i hi
      rw [List.mem_append, List.mem_reverse] at hi
      rcases hi with hi | hi
      · exact hstep id hid' i hi
      · exact hpending i (List.mem_cons_of_mem _ hi)

/-- Going down from the parts of an organization finds those of which it is an ancestor. -/
theorem mem_descend_iff (hf : f.WellFormed) :
    a ∈ f.descend .empty (f.parts r).reverse ↔ TransGen f.PartOf a r := by
  constructor
  · apply of_mem_descend (P := fun i => TransGen f.PartOf i r)
    · intro i hi c hc
      exact .head ((mem_parts_iff hf).1 hc) hi
    · intro i hi
      cases hi
    · intro i hi
      rw [List.mem_reverse, mem_parts_iff hf] at hi
      exact .single hi
  · intro ha
    induction ha using TransGen.head_induction_on with
    | single hstep =>
      apply mem_descend_of_mem
      rw [List.mem_reverse, mem_parts_iff hf]
      exact .inr hstep
    | head hstep _ ih =>
      apply mem_descend_of_mem_parts _ ih ((mem_parts_iff hf).2 hstep)
      intro i hi
      cases hi

end Forest

namespace Hierarchy

open Forest

variable {h : Hierarchy} {id r a : OrganizationId}

theorem acyclic (h : Hierarchy) (i : OrganizationId) : ¬ TransGen h.forest.PartOf i i :=
  (lineages_iff_acyclic h.wellFormed).1 (fun _ hid => h.exists_lineage hid) i

theorem mem_ids_of_transGen (ha : TransGen h.forest.PartOf a r) : r ∈ h.forest.ids := by
  obtain ⟨b, -, hbr⟩ := TransGen.tail'_iff.1 ha
  exact h.wellFormed.parent_mem _ ((partOf_iff h.wellFormed).1 hbr)

/-- The top of an organization is the ancestor without a parent, or the organization itself. -/
theorem root?_eq_some_iff_reaches : h.root? id = some r ↔
    id ∈ h.forest.ids ∧ ReflTransGen h.forest.PartOf id r ∧ h.forest.parent? r = none := by
  rw [root?_eq_some_iff]
  refine and_congr_right fun hid => ?_
  constructor
  · rintro ⟨l, hl, hr⟩
    exact hl.reaches hr
  · rintro ⟨hreach, hnone⟩
    obtain ⟨l, hl⟩ := h.exists_lineage hid
    refine ⟨l, hl, ?_⟩
    induction hreach using ReflTransGen.head_induction_on generalizing l with
    | refl =>
      rw [(lineage_iff_of_none hnone).1 hl]
      rfl
    | head hstep _ ih =>
      obtain ⟨l, rfl, rest⟩ := (lineage_iff_of_some hstep).1 hl
      rw [rest.getLast?_cons]
      exact ih (h.wellFormed.parent_mem _ ((partOf_iff h.wellFormed).1 hstep)) l rest

theorem mem_ids_of_root? (hr : h.root? id = some r) : r ∈ h.forest.ids := by
  obtain ⟨hid, hreach, -⟩ := root?_eq_some_iff_reaches.1 hr
  rcases reflTransGen_iff_eq_or_transGen.1 hreach with rfl | htrans
  · exact hid
  · exact mem_ids_of_transGen htrans

theorem transGen_of_root? (hr : h.root? a = some r) (hne : a ≠ r) :
    TransGen h.forest.PartOf a r := by
  obtain ⟨-, hreach, -⟩ := root?_eq_some_iff_reaches.1 hr
  exact (reflTransGen_iff_eq_or_transGen.1 hreach).resolve_left hne.symm

/-- The record of a top names no parent. -/
theorem exists_get?_of_root? (hr : h.root? a = some r) :
    ∃ o, h.get? r = some o ∧ o.partOf = none := by
  obtain ⟨-, -, hnone⟩ := root?_eq_some_iff_reaches.1 hr
  exact ⟨h.forest.record r, if_pos (contains_iff.2 (mem_ids_of_root? hr)), hnone⟩

/-- The organizations below one that is mentioned are those of which it is an ancestor. -/
theorem exists_subOrganizationsOf (hr : r ∈ h.forest.ids) :
    ∃ s, h.subOrganizationsOf r = .ok s ∧ ∀ a, a ∈ s ↔ TransGen h.forest.PartOf a r := by
  refine ⟨_, if_pos (contains_iff.2 hr), fun a => ?_⟩
  rw [mem_descend_iff h.wellFormed]

end Hierarchy

end PublicationIndicator
