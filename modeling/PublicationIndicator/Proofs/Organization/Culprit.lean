import PublicationIndicator.Proofs.Organization.Declaration
import PublicationIndicator.Proofs.Publication.FirstSeen

/-!
# PublicationIndicator.Proofs.Organization.Culprit — what is wrong with records that make no hierarchy

An error about two parents names two that are declared.  An error about a circle names the first
organization mentioned whose declared parents lead into one (`Encircled`), or one that is declared a part
of itself (`culprit_of_ofOrganizations`).  The organization need not stand in the circle: its parents may
only lead there (`cycle_of_outsider`).
-/

namespace PublicationIndicator

open Relation Forest

/-- The declared parents of an organization lead into a circle. -/
def Encircled (os : List Organization) (x : OrganizationId) : Prop :=
  ∃ y, ReflTransGen (Declares os) x y ∧ TransGen (Declares os) y y

/-- The organizations that a record mentions, in the order in which it does. -/
def Organization.mentioned (o : Organization) : List OrganizationId :=
  o.id :: o.links.flatMap fun l => [l.1, l.2]

/-- The error names links among `ls` that cannot be taken in together. -/
inductive Unlinkable (ls : List (OrganizationId × OrganizationId)) : HierarchyError → Prop
  | cycle {i : OrganizationId} (h : (i, i) ∈ ls) : Unlinkable ls (.cycle i)
  | conflictingParents {c p q : OrganizationId} (hp : (c, p) ∈ ls) (hq : (c, q) ∈ ls)
      (hne : p ≠ q) : Unlinkable ls (.conflictingParents c p q)

theorem Unlinkable.mono {ls ls' : List (OrganizationId × OrganizationId)} {e : HierarchyError}
    (h : Unlinkable ls e) (hsub : ls ⊆ ls') : Unlinkable ls' e := by
  cases h with
  | cycle hi => exact .cycle (hsub hi)
  | conflictingParents hp hq hne => exact .conflictingParents (hsub hp) (hsub hq) hne

namespace Forest

variable {f g : Forest} {c p x : OrganizationId} {e : HierarchyError} {os : List Organization}
  {l : List OrganizationId}

/-! ### Links that are refused -/

theorem unlinkable_of_link (hf : f.WellFormed) (h : f.link c p = .error e) :
    Unlinkable ((c, p) :: f.links) e := by
  unfold link at h
  split at h
  · rename_i hcp
    subst hcp
    cases h
    exact .cycle List.mem_cons_self
  · simp only [parent?_mention] at h
    cases hq : f.parent? c with
    | none =>
      rw [hq] at h
      cases h
    | some q =>
      rw [hq] at h
      simp only at h
      split at h
      · cases h
      · rename_i hne
        cases h
        have hlink : (c, q) ∈ f.links := (parent?_eq_some_iff hf).1 hq
        exact .conflictingParents (List.mem_cons_of_mem _ hlink) List.mem_cons_self hne

theorem unlinkable_of_links {ls : List (OrganizationId × OrganizationId)} (hf : f.WellFormed)
    (h : ls.foldlM (fun f l => f.link l.1 l.2) f = .error e) : Unlinkable (f.links ++ ls) e := by
  induction ls generalizing f with
  | nil => cases h
  | cons l ls ih =>
    rw [List.foldlM_cons] at h
    rcases bind_eq_error_iff.1 h with h | ⟨f', hl, h⟩
    · exact (unlinkable_of_link hf h).mono (by simp)
    · have htakes := takes_link hf hl
      refine (ih htakes.wellFormed h).mono fun l' hl' => ?_
      rw [List.mem_append, htakes.mem_links] at hl'
      simp only [List.mem_singleton] at hl'
      rw [List.mem_append, List.mem_cons]
      tauto

/-- Records are refused because of a link, and of another one declared before. -/
theorem unlinkable_of_addAll (hf : f.WellFormed) (h : f.addAll os = .error e) :
    Unlinkable (f.links ++ os.flatMap Organization.links) e := by
  induction os generalizing f with
  | nil => cases h
  | cons o os ih =>
    rw [addAll, List.foldlM_cons] at h
    rw [List.flatMap_cons]
    rcases bind_eq_error_iff.1 h with h | ⟨f', ho, h⟩
    · have hlinks := unlinkable_of_links (takes_mention hf o.id).wellFormed h
      rw [links_mention] at hlinks
      exact hlinks.mono (by simp)
    · have htakes := takes_add hf ho
      refine (ih htakes.wellFormed h).mono fun l hl => ?_
      rw [List.mem_append, htakes.mem_links] at hl
      rw [List.mem_append, List.mem_append]
      tauto

/-! ### The order of what is mentioned -/

theorem ids_mention (hf : f.ids = firstSeen l) (i : OrganizationId) :
    (f.mention i).ids = firstSeen (l ++ [i]) := by
  rw [firstSeen_concat, ← hf]
  unfold mention
  split <;> rfl

theorem ids_link (hf : f.ids = firstSeen l) (h : f.link c p = .ok g) :
    g.ids = firstSeen (l ++ [c, p]) := by
  have hboth : g.ids = ((f.mention c).mention p).ids := by
    obtain ⟨-, ⟨-, rfl⟩ | ⟨-, rfl⟩⟩ := link_cases h
    · rfl
    · rfl
  rw [hboth, ids_mention (ids_mention hf c) p, List.append_assoc]
  rfl

theorem ids_links {ls : List (OrganizationId × OrganizationId)} (hf : f.ids = firstSeen l)
    (h : ls.foldlM (fun f l => f.link l.1 l.2) f = .ok g) :
    g.ids = firstSeen (l ++ ls.flatMap fun l => [l.1, l.2]) := by
  induction ls generalizing f l with
  | nil =>
    cases h
    simpa using hf
  | cons a ls ih =>
    rw [List.foldlM_cons] at h
    obtain ⟨f', ha, h⟩ := bind_eq_ok_iff.1 h
    rw [List.flatMap_cons, ← List.append_assoc]
    exact ih (ids_link hf ha) h

/-- Organizations stand in a forest in the order in which the records mention them. -/
theorem ids_addAll (hf : f.ids = firstSeen l) (h : f.addAll os = .ok g) :
    g.ids = firstSeen (l ++ os.flatMap Organization.mentioned) := by
  induction os generalizing f l with
  | nil =>
    cases h
    simpa using hf
  | cons o os ih =>
    rw [addAll, List.foldlM_cons] at h
    obtain ⟨f', ho, h⟩ := bind_eq_ok_iff.1 h
    have ho' : f'.ids = firstSeen (l ++ o.mentioned) := by
      rw [ids_links (ids_mention hf o.id) ho, List.append_assoc]
      rfl
    rw [List.flatMap_cons, ← List.append_assoc]
    exact ih ho' h

/-! ### Circles -/

/-- Records are refused when they are taken in, or when all are and links run in a circle. -/
theorem extend_error_cases (h : f.extend os = .error e) :
    f.addAll os = .error e ∨ ∃ g x, f.addAll os = .ok g ∧ g.unsettled? = some x ∧ e = .cycle x := by
  unfold extend at h
  cases hadd : f.addAll os with
  | error e' =>
    rw [hadd] at h
    cases h
    exact .inl rfl
  | ok g =>
    rw [hadd] at h
    cases hun : g.unsettled? with
    | none =>
      simp only [hun] at h
      cases h
    | some x =>
      simp only [hun] at h
      cases h
      exact .inr ⟨g, x, rfl, hun, rfl⟩

/-- In a forest that takes in records, those organizations have no lineage whose parents lead into a
circle. -/
theorem encircled_iff (hf : empty.Takes (os.map Organization.id) (os.flatMap Organization.links) f)
    (hx : x ∈ f.ids) : Encircled os x ↔ ¬ ∃ l, f.Lineage x l := by
  rw [exists_lineage_iff hf.wellFormed hx, partOf_eq_declares hf, Encircled]
  push Not
  rfl

end Forest

/-- Two parents that an error names are declared, and differ.  An organization that an error about a
circle names is declared a part of itself, or is the first one mentioned whose parents lead into a
circle. -/
theorem culprit_of_ofOrganizations (os : List Organization) :
    (∀ i p q, Hierarchy.ofOrganizations os = .error (.conflictingParents i p q) →
      p ≠ q ∧ Declares os i p ∧ Declares os i q) ∧
    (∀ x, Hierarchy.ofOrganizations os = .error (.cycle x) →
      Declares os x x ∨ Encircled os x ∧ ∃ before after,
        firstSeen (os.flatMap Organization.mentioned) = before ++ x :: after ∧
          ∀ i ∈ before, ¬ Encircled os i) ∧
    ∀ x, Hierarchy.ofOrganizations os ≠ .error (.notFound x) := by
  have hlinks : ∀ e, empty.addAll os = .error e → Unlinkable (os.flatMap Organization.links) e :=
    fun e he => unlinkable_of_addAll wellFormed_empty he
  have hcases : ∀ e, Hierarchy.ofOrganizations os = .error e → empty.addAll os = .error e ∨
      ∃ g x, empty.addAll os = .ok g ∧ g.unsettled? = some x ∧ e = .cycle x :=
    fun e he => extend_error_cases (Hierarchy.extend_eq_error_iff.1 he)
  refine ⟨fun i p q he => ?_, fun x he => ?_, fun x he => ?_⟩
  · rcases hcases _ he with hadd | ⟨g, x, -, -, hcycle⟩
    · cases hlinks _ hadd with
      | conflictingParents hp hq hne => exact ⟨hne, declares_iff.2 hp, declares_iff.2 hq⟩
    · cases hcycle
  · rcases hcases _ he with hadd | ⟨g, x', hadd, hun, hcycle⟩
    · cases hlinks _ hadd with
      | cycle hx => exact .inl (declares_iff.2 hx)
    · cases hcycle
      have htakes := takes_addAll wellFormed_empty hadd
      have hids : g.ids = firstSeen (os.flatMap Organization.mentioned) :=
        ids_addAll (l := []) rfl hadd
      obtain ⟨hnone, before, after, hsplit, hbefore⟩ := unsettled?_eq_some htakes.wellFormed hun
      have hmem : ∀ i ∈ before ++ x :: after, i ∈ g.ids := by
        rw [hsplit]
        exact fun i hi => hi
      refine .inr ⟨(encircled_iff htakes (hmem x (by simp))).2 hnone, before, after,
        hids.symm.trans hsplit, fun i hi => ?_⟩
      rw [encircled_iff htakes (hmem i (List.mem_append_left _ hi)), not_not]
      exact hbefore i hi
  · rcases hcases _ he with hadd | ⟨g, x', -, -, hcycle⟩
    · cases hlinks _ hadd
    · cases hcycle

/-- An organization outside of a circle is named, as its parent stands in one. -/
theorem cycle_of_outsider :
    let id (s : String) : OrganizationId := ⟨s⟩
    let os : List Organization :=
      [.childOf (id "t") (id "a"), .childOf (id "a") (id "b"), .childOf (id "b") (id "a")]
    Hierarchy.ofOrganizations os = .error (.cycle (id "t")) ∧
      ¬ TransGen (Declares os) (id "t") (id "t") := by
  intro id os
  refine ⟨Hierarchy.extend_eq_error_iff.2 (by decide), fun hcycle => ?_⟩
  obtain ⟨c, -, hc⟩ := TransGen.tail'_iff.1 hcycle
  rw [declares_iff] at hc
  have hnone : ∀ l ∈ os.flatMap Organization.links, l.2 ≠ id "t" := by decide
  exact hnone _ hc rfl

end PublicationIndicator
