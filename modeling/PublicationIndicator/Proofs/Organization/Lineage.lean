import Mathlib.Data.List.Perm.Subperm
import PublicationIndicator.Proofs.Organization.Linking

/-!
# PublicationIndicator.Proofs.Organization.Lineage — from an organization to the top of its tree

`Forest.Lineage f id l` says that `l` are the organization `id` and its ancestors, up to one without a
parent.  An organization has one lineage at most, nothing stands in it twice, and `root?` answers with
its end if it is not longer than the steps allow (`root?_eq_some_iff`).  In a hierarchy everything that
is mentioned has a lineage (`Hierarchy.exists_lineage`), so that the number of organizations is enough
steps (`Hierarchy.root?_eq_some_iff`).
-/

namespace PublicationIndicator

namespace Forest

/-- `l` are the organization `id` and its ancestors, up to one without a parent. -/
inductive Lineage (f : Forest) : OrganizationId → List OrganizationId → Prop
  | top {id : OrganizationId} (h : f.parent? id = none) : Lineage f id [id]
  | up {id p : OrganizationId} {l : List OrganizationId} (h : f.parent? id = some p)
      (rest : Lineage f p l) : Lineage f id (id :: l)

variable {f g : Forest} {id r : OrganizationId} {l l' : List OrganizationId}

theorem Lineage.mem_self (h : f.Lineage id l) : id ∈ l := by
  cases h <;> simp

/-- An organization has one lineage at most. -/
theorem Lineage.unique (h : f.Lineage id l) (h' : f.Lineage id l') : l = l' := by
  induction h generalizing l' with
  | top hnone =>
    cases h' with
    | top => rfl
    | up hsome =>
      rw [hnone] at hsome
      cases hsome
  | up hsome _ ih =>
    cases h' with
    | top hnone =>
      rw [hnone] at hsome
      cases hsome
    | up hsome' rest' =>
      rw [hsome] at hsome'
      cases hsome'
      rw [ih rest']

/-- An ancestor's lineage is a part of one's own. -/
theorem Lineage.of_mem {a : OrganizationId} (h : f.Lineage id l) (ha : a ∈ l) :
    ∃ l', f.Lineage a l' ∧ l'.Sublist l := by
  induction h with
  | top hnone =>
    obtain rfl := List.mem_singleton.1 ha
    exact ⟨_, .top hnone, List.Sublist.refl _⟩
  | up hsome rest ih =>
    rcases List.mem_cons.1 ha with rfl | ha
    · exact ⟨_, .up hsome rest, List.Sublist.refl _⟩
    · obtain ⟨l', hl', hsub⟩ := ih ha
      exact ⟨l', hl', hsub.cons _⟩

/-- Nothing stands in a lineage twice: it would have to have a lineage shorter than its own. -/
theorem Lineage.nodup (h : f.Lineage id l) : l.Nodup := by
  induction h with
  | top => exact List.nodup_singleton _
  | @up id p l hsome rest ih =>
    refine List.nodup_cons.2 ⟨fun hmem => ?_, ih⟩
    -- were `id` its own ancestor, its lineage would be a part of what follows it
    obtain ⟨l', hl', hsub⟩ := rest.of_mem hmem
    have hlen := hsub.length_le
    rw [← (Lineage.up hsome rest).unique hl', List.length_cons] at hlen
    omega

theorem Lineage.subset_ids (hf : f.WellFormed) (h : f.Lineage id l) (hid : id ∈ f.ids) :
    l ⊆ f.ids := by
  induction h with
  | top =>
    intro a ha
    rwa [List.mem_singleton.1 ha]
  | up hsome _ ih =>
    intro a ha
    rcases List.mem_cons.1 ha with rfl | ha
    · exact hid
    · exact ih (hf.parent_mem _ ((parent?_eq_some_iff hf).1 hsome)) ha

theorem Lineage.length_le (hf : f.WellFormed) (h : f.Lineage id l) (hid : id ∈ f.ids) :
    l.length ≤ f.ids.length :=
  (List.subperm_of_subset h.nodup (h.subset_ids hf hid)).length_le

/-! ### The top -/

theorem lineage_iff_of_none (hnone : f.parent? id = none) : f.Lineage id l ↔ l = [id] := by
  constructor
  · intro h
    exact h.unique (.top hnone)
  · rintro rfl
    exact .top hnone

theorem lineage_iff_of_some {p : OrganizationId} (hsome : f.parent? id = some p) :
    f.Lineage id l ↔ ∃ l', l = id :: l' ∧ f.Lineage p l' := by
  constructor
  · intro h
    cases h with
    | top hnone =>
      rw [hnone] at hsome
      cases hsome
    | up hsome' rest =>
      rw [hsome] at hsome'
      cases hsome'
      exact ⟨_, rfl, rest⟩
  · rintro ⟨l', rfl, rest⟩
    exact .up hsome rest

theorem Lineage.getLast?_cons (h : f.Lineage id l) (a : OrganizationId) :
    (a :: l).getLast? = l.getLast? :=
  List.getLast?_cons_of_ne_nil (List.ne_nil_of_mem h.mem_self)

theorem Lineage.exists_getLast? (h : f.Lineage id l) : ∃ r, l.getLast? = some r :=
  ⟨_, List.getLast?_eq_some_getLast (List.ne_nil_of_mem h.mem_self)⟩

/-- The top is the end of the lineage, if that is not longer than the steps allow. -/
theorem root?_eq_some_iff {n : Nat} : f.root? n id = some r ↔
    ∃ l, f.Lineage id l ∧ l.length ≤ n + 1 ∧ l.getLast? = some r := by
  induction n generalizing id with
  | zero =>
    rw [root?]
    cases hp : f.parent? id with
    | none =>
      simp [lineage_iff_of_none hp]
    | some p =>
      constructor
      · intro h
        cases h
      · rintro ⟨l, hl, hlen, -⟩
        obtain ⟨l', rfl, rest⟩ := (lineage_iff_of_some hp).1 hl
        have hpos := List.length_pos_of_mem rest.mem_self
        rw [List.length_cons] at hlen
        omega
  | succ n ih =>
    rw [root?]
    cases hp : f.parent? id with
    | none =>
      simp [lineage_iff_of_none hp]
    | some p =>
      simp only [ih]
      constructor
      · rintro ⟨l, hl, hlen, hr⟩
        refine ⟨id :: l, .up hp hl, by rw [List.length_cons]; omega, ?_⟩
        rw [hl.getLast?_cons, hr]
      · rintro ⟨l, hl, hlen, hr⟩
        obtain ⟨l', rfl, rest⟩ := (lineage_iff_of_some hp).1 hl
        rw [List.length_cons] at hlen
        rw [rest.getLast?_cons] at hr
        exact ⟨l', rest, by omega, hr⟩

/-- As many steps as there are organizations are enough. -/
theorem root?_length_eq_some_iff (hf : f.WellFormed) (hid : id ∈ f.ids) :
    f.root? f.ids.length id = some r ↔ ∃ l, f.Lineage id l ∧ l.getLast? = some r := by
  rw [root?_eq_some_iff]
  constructor
  · rintro ⟨l, hl, -, hr⟩
    exact ⟨l, hl, hr⟩
  · rintro ⟨l, hl, hr⟩
    have hlen := hl.length_le hf hid
    exact ⟨l, hl, by omega, hr⟩

/-- The parents of an organization without a lineage go on for longer than there are organizations. -/
theorem root?_length_isNone_iff (hf : f.WellFormed) (hid : id ∈ f.ids) :
    (f.root? f.ids.length id).isNone = true ↔ ¬ ∃ l, f.Lineage id l := by
  rw [Option.isNone_iff_eq_none, Option.eq_none_iff_forall_ne_some, not_exists]
  constructor
  · intro hnone l hl
    obtain ⟨r, hr⟩ := hl.exists_getLast?
    exact hnone r ((root?_length_eq_some_iff hf hid).2 ⟨l, hl, hr⟩)
  · intro hnone r hr
    obtain ⟨l, hl, -⟩ := (root?_length_eq_some_iff hf hid).1 hr
    exact hnone l hl

/-- No parents go on for longer than there are organizations, if everything has a lineage. -/
theorem unsettled?_eq_none_iff (hf : f.WellFormed) :
    f.unsettled? = none ↔ ∀ id ∈ f.ids, ∃ l, f.Lineage id l := by
  rw [unsettled?, List.find?_eq_none]
  refine forall₂_congr fun id hid => ?_
  rw [root?_length_isNone_iff hf hid, not_not]

/-- The organization that is found is the first one without a lineage. -/
theorem unsettled?_eq_some (hf : f.WellFormed) (h : f.unsettled? = some id) :
    (¬ ∃ l, f.Lineage id l) ∧
      ∃ before after, f.ids = before ++ id :: after ∧ ∀ i ∈ before, ∃ l, f.Lineage i l := by
  rw [unsettled?, List.find?_eq_some_iff_append] at h
  obtain ⟨hnone, before, after, hids, hbefore⟩ := h
  have hmem : ∀ i ∈ before ++ id :: after, i ∈ f.ids := by
    rw [hids]
    exact fun i hi => hi
  refine ⟨(root?_length_isNone_iff hf (hmem id (by simp))).1 hnone, before, after, hids, ?_⟩
  intro i hi
  have hsome := hbefore i hi
  rw [Bool.not_eq_true', ← Bool.not_eq_true,
    root?_length_isNone_iff hf (hmem i (List.mem_append_left _ hi)), not_not] at hsome
  exact hsome

/-- Records can be added to a forest if they can be taken in and then everything has a lineage. -/
theorem extend_eq_ok_iff {os : List Organization} (hf : f.WellFormed) :
    f.extend os = .ok g ↔ f.addAll os = .ok g ∧ ∀ id ∈ g.ids, ∃ l, g.Lineage id l := by
  unfold extend
  cases hadd : f.addAll os with
  | error e => simp
  | ok g' =>
    have hg' : g'.WellFormed := (takes_addAll hf hadd).wellFormed
    cases hun : g'.unsettled? with
    | none =>
      simp only [hun]
      have hall := (unsettled?_eq_none_iff hg').1 hun
      constructor
      · intro h
        cases h
        exact ⟨rfl, hall⟩
      · rintro ⟨h, -⟩
        cases h
        rfl
    | some id =>
      simp only [hun]
      constructor
      · intro h
        cases h
      · rintro ⟨h, hall⟩
        cases h
        rw [(unsettled?_eq_none_iff hg').2 hall] at hun
        cases hun

/-! ### Forests with fewer links -/

theorem parent?_of_subset (hf : f.WellFormed) (hg : g.WellFormed) (hsub : g.links ⊆ f.links)
    {c p : OrganizationId} (h : g.parent? c = some p) : f.parent? c = some p :=
  (parent?_eq_some_iff hf).2 (hsub ((parent?_eq_some_iff hg).1 h))

/-- With fewer links a lineage ends sooner. -/
theorem Lineage.restrict (hf : f.WellFormed) (hg : g.WellFormed) (hsub : g.links ⊆ f.links)
    (h : f.Lineage id l) : ∃ l', g.Lineage id l' := by
  induction h with
  | @top id hnone =>
    cases hp : g.parent? id with
    | none => exact ⟨_, .top hp⟩
    | some p =>
      rw [parent?_of_subset hf hg hsub hp] at hnone
      cases hnone
  | @up id p l hsome _ ih =>
    cases hq : g.parent? id with
    | none => exact ⟨_, .top hq⟩
    | some q =>
      rw [parent?_of_subset hf hg hsub hq] at hsome
      cases hsome
      obtain ⟨l', hl'⟩ := ih
      exact ⟨_, .up hq hl'⟩

/-- A lineage is the same wherever its organizations have the same parents. -/
theorem Lineage.congr (hsame : ∀ c ∈ l, g.parent? c = f.parent? c) (h : f.Lineage id l) :
    g.Lineage id l := by
  induction h with
  | top hnone =>
    exact .top ((hsame _ (by simp)).trans hnone)
  | up hsome _ ih =>
    exact .up ((hsame _ (by simp)).trans hsome) (ih fun c hc => hsame c (List.mem_cons_of_mem _ hc))

end Forest

namespace Hierarchy

open Forest

variable {h : Hierarchy} {id r : OrganizationId}

theorem exists_takes (h : Hierarchy) : ∃ os : List Organization,
    Forest.empty.Takes (os.map Organization.id) (os.flatMap Organization.links) h.forest ∧
      ∀ id ∈ h.forest.ids, ∃ l, h.forest.Lineage id l := by
  obtain ⟨os, hos⟩ := h.declared
  obtain ⟨hadd, hall⟩ := (extend_eq_ok_iff wellFormed_empty).1 hos
  exact ⟨os, takes_addAll wellFormed_empty hadd, hall⟩

theorem wellFormed (h : Hierarchy) : h.forest.WellFormed := by
  obtain ⟨os, htakes, -⟩ := h.exists_takes
  exact htakes.wellFormed

theorem linkable (h : Hierarchy) : Linkable h.forest.links := by
  obtain ⟨os, htakes, -⟩ := h.exists_takes
  exact linkable_of_takes htakes

/-- Everything in a hierarchy has a lineage. -/
theorem exists_lineage (h : Hierarchy) (hid : id ∈ h.forest.ids) : ∃ l, h.forest.Lineage id l := by
  obtain ⟨os, -, hall⟩ := h.exists_takes
  exact hall id hid

/-- Everything in a part of a hierarchy has a lineage there. -/
theorem exists_lineage_of_subset {g : Forest} (hg : g.WellFormed) (hids : g.ids ⊆ h.forest.ids)
    (hlinks : g.links ⊆ h.forest.links) : ∀ id ∈ g.ids, ∃ l, g.Lineage id l := by
  intro id hid
  obtain ⟨l, hl⟩ := h.exists_lineage (hids hid)
  exact hl.restrict h.wellFormed hg hlinks

theorem contains_iff : h.contains id = true ↔ id ∈ h.forest.ids := by
  rw [contains, decide_eq_true_eq]

/-- The top of an organization is the end of its lineage. -/
theorem root?_eq_some_iff :
    h.root? id = some r ↔ id ∈ h.forest.ids ∧ ∃ l, h.forest.Lineage id l ∧ l.getLast? = some r := by
  rw [root?, size]
  by_cases hid : id ∈ h.forest.ids
  · rw [if_pos (contains_iff.2 hid), root?_length_eq_some_iff h.wellFormed hid, and_iff_right hid]
  · rw [if_neg fun hc => hid (contains_iff.1 hc)]
    simp [hid]

/-- What is not mentioned has no top, and everything else has one. -/
theorem root?_eq_none_iff : h.root? id = none ↔ id ∉ h.forest.ids := by
  rw [Option.eq_none_iff_forall_ne_some]
  constructor
  · intro hnone hid
    obtain ⟨l, hl⟩ := h.exists_lineage hid
    obtain ⟨r, hr⟩ := hl.exists_getLast?
    exact hnone r (root?_eq_some_iff.2 ⟨hid, l, hl, hr⟩)
  · intro hid r hr
    exact hid (root?_eq_some_iff.1 hr).1

theorem contains_eq_false_iff : h.contains id = false ↔ h.root? id = none := by
  rw [root?_eq_none_iff, ← contains_iff, Bool.not_eq_true]

theorem contains_iff_exists_root? : h.contains id = true ↔ ∃ r, h.root? id = some r := by
  rw [← Bool.not_eq_false, contains_eq_false_iff]
  exact Option.ne_none_iff_exists'

/-- The hierarchy that takes in more records, as a forest. -/
theorem extend_eq_ok_iff {os : List Organization} {k : Hierarchy} :
    h.extend os = .ok k ↔ h.forest.extend os = .ok k.forest := by
  unfold extend
  split
  · rename_i f hf
    constructor
    · intro hk
      cases hk
      exact hf
    · intro hk
      obtain ⟨forest, declared⟩ := k
      cases hf.symm.trans hk
      rfl
  · rename_i e he
    constructor
    · intro hk
      cases hk
    · intro hk
      cases he.symm.trans hk

/-- A hierarchy cannot be extended where its forest cannot, for the same reason. -/
theorem extend_eq_error_iff {os : List Organization} {e : HierarchyError} :
    h.extend os = .error e ↔ h.forest.extend os = .error e := by
  unfold extend
  split
  · rename_i f hf
    constructor
    · intro hk
      cases hk
    · intro hk
      cases hf.symm.trans hk
  · rename_i e' he
    rw [he, Except.error.injEq, Except.error.injEq]

/-- A hierarchy can be extended where its forest can. -/
theorem exists_extend {os : List Organization} {g : Forest} (hg : h.forest.extend os = .ok g) :
    ∃ k, h.extend os = .ok k ∧ k.forest = g := by
  obtain ⟨os', hos'⟩ := h.declared
  exact ⟨⟨g, os' ++ os, extend_append hos' hg⟩, extend_eq_ok_iff.2 hg, rfl⟩

/-- Records that follow those of a hierarchy are taken in, or refused, as if all had come at once. -/
theorem ofOrganizations_append {os : List Organization} (hos : ofOrganizations os = .ok h)
    (os' : List Organization) : ofOrganizations (os ++ os') = h.extend os' := by
  have hadd : Forest.empty.addAll os = .ok h.forest := addAll_of_extend (extend_eq_ok_iff.1 hos)
  have hforest : Forest.empty.extend (os ++ os') = h.forest.extend os' :=
    extend_append_of_addAll hadd os'
  cases hk : h.extend os' with
  | ok k => exact extend_eq_ok_iff.2 (hforest.trans (extend_eq_ok_iff.1 hk))
  | error e => exact extend_eq_error_iff.2 (hforest.trans (extend_eq_error_iff.1 hk))

/-- A hierarchy takes in the names and the links of the records that declare it. -/
theorem takes_ofOrganizations {os : List Organization} (hos : ofOrganizations os = .ok h) :
    Forest.empty.Takes (os.map Organization.id) (os.flatMap Organization.links) h.forest :=
  takes_addAll wellFormed_empty (addAll_of_extend (extend_eq_ok_iff.1 hos))

end Hierarchy

end PublicationIndicator
