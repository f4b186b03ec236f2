import PublicationIndicator.Proofs.Organization.Ancestry

/-!
# PublicationIndicator.Proofs.Organization.Declaration — what records declare

A list of records declares which organization is a part of which, in the record of the one or of the
other (`Declares`), and mentions organizations (`Mentions`).  Records make a hierarchy if and only if no
organization is declared a part of two others, or of itself through others.  The hierarchy then answers
with what they declare (`Hierarchy.Shows`), whatever their order is and whoever declares it
(`ofOrganizations_of_declared`).
-/

namespace PublicationIndicator

open Relation Forest

/-- `c` is declared to be a part of `p`, in the record of `c` or in that of `p`. -/
def Declares (os : List Organization) (c p : OrganizationId) : Prop :=
  ∃ o ∈ os, o.id = c ∧ o.partOf = some p ∨ o.id = p ∧ c ∈ o.hasPart

/-- The organization has a record, or is mentioned in one. -/
def Mentions (os : List Organization) (i : OrganizationId) : Prop :=
  ∃ o ∈ os, o.id = i ∨ o.partOf = some i ∨ i ∈ o.hasPart

/-- The answers of a hierarchy are what the records declare. -/
structure Hierarchy.Shows (h : Hierarchy) (os : List Organization) : Prop where
  contains : ∀ i, h.contains i = true ↔ Mentions os i
  get : ∀ i, Mentions os i → ∃ o, h.get? i = some o ∧ o.id = i ∧
    (∀ p, o.partOf = some p ↔ Declares os i p) ∧
    o.hasPart.Nodup ∧ ∀ c, c ∈ o.hasPart ↔ Declares os c i
  get_none : ∀ i, ¬ Mentions os i → h.get? i = none
  /-- The record at the top is the end of the path of declared parents. -/
  resolve : ∀ i, Mentions os i → ∃ o, h.resolveTopLevel i = .ok o ∧ h.get? o.id = some o ∧
    ReflTransGen (Declares os) i o.id ∧ ∀ p, ¬ Declares os o.id p
  resolve_notFound : ∀ i, ¬ Mentions os i → h.resolveTopLevel i = .error (.notFound i)

/-- Two hierarchies have the same organizations with the same parents, parts and tops. -/
structure Hierarchy.Agrees (h k : Hierarchy) : Prop where
  contains : ∀ i, h.contains i = k.contains i
  partOf : ∀ i, (h.get? i).map Organization.partOf = (k.get? i).map Organization.partOf
  hasPart : ∀ i c, (∃ o, h.get? i = some o ∧ c ∈ o.hasPart) ↔ ∃ o, k.get? i = some o ∧ c ∈ o.hasPart
  resolve : ∀ i, (h.resolveTopLevel i).map Organization.id = (k.resolveTopLevel i).map Organization.id

section

variable {os os' : List Organization} {c p i : OrganizationId} {h k : Hierarchy}

/-! ### Links and declarations -/

theorem mem_links_iff {o : Organization} :
    (c, p) ∈ o.links ↔ o.id = c ∧ o.partOf = some p ∨ o.id = p ∧ c ∈ o.hasPart := by
  rw [Organization.links, List.mem_append, List.mem_map, List.mem_map]
  simp only [Option.mem_toList, Prod.mk.injEq]
  constructor
  · rintro (⟨q, hq, rfl, rfl⟩ | ⟨d, hd, rfl, rfl⟩)
    · exact .inl ⟨rfl, hq⟩
    · exact .inr ⟨rfl, hd⟩
  · rintro (⟨rfl, hp⟩ | ⟨rfl, hc⟩)
    · exact .inl ⟨p, hp, rfl, rfl⟩
    · exact .inr ⟨c, hc, rfl, rfl⟩

theorem declares_iff : Declares os c p ↔ (c, p) ∈ os.flatMap Organization.links := by
  rw [List.mem_flatMap]
  simp only [mem_links_iff, Declares]

theorem mentions_iff : Mentions os i ↔
    i ∈ os.map Organization.id ∨ ∃ l ∈ os.flatMap Organization.links, i = l.1 ∨ i = l.2 := by
  constructor
  · rintro ⟨o, ho, rfl | hp | hc⟩
    · exact .inl (List.mem_map_of_mem ho)
    · exact .inr ⟨(o.id, i), declares_iff.1 ⟨o, ho, .inl ⟨rfl, hp⟩⟩, .inr rfl⟩
    · exact .inr ⟨(i, o.id), declares_iff.1 ⟨o, ho, .inr ⟨rfl, hc⟩⟩, .inl rfl⟩
  · rintro (hi | ⟨⟨c, p⟩, hl, hi⟩)
    · obtain ⟨o, ho, rfl⟩ := List.mem_map.1 hi
      exact ⟨o, ho, .inl rfl⟩
    · -- both ends of a link stand in the record that declares it
      obtain ⟨o, ho, ⟨rfl, hp⟩ | ⟨rfl, hc⟩⟩ := declares_iff.2 hl
      · rcases hi with rfl | rfl
        · exact ⟨o, ho, .inl rfl⟩
        · exact ⟨o, ho, .inr (.inl hp)⟩
      · rcases hi with rfl | rfl
        · exact ⟨o, ho, .inr (.inr hc)⟩
        · exact ⟨o, ho, .inl rfl⟩

theorem declares_congr (hdeclares : ∀ c p, Declares os' c p ↔ Declares os c p) :
    Declares os' = Declares os := by
  funext c p
  exact propext (hdeclares c p)

/-- A forest that takes in records has their organizations and their links. -/
theorem partOf_eq_declares {f : Forest}
    (hf : empty.Takes (os.map Organization.id) (os.flatMap Organization.links) f) :
    f.PartOf = Declares os := by
  funext c p
  rw [partOf_iff hf.wellFormed, hf.mem_links, declares_iff]
  simp [empty]

theorem mem_ids_iff_mentions {f : Forest}
    (hf : empty.Takes (os.map Organization.id) (os.flatMap Organization.links) f) :
    i ∈ f.ids ↔ Mentions os i := by
  rw [hf.mem_ids, mentions_iff]
  simp [empty]

/-! ### Acceptance -/

/-- Records make a hierarchy if no organization is declared a part of two others, or of itself. -/
theorem exists_ofOrganizations
    (hsingle : ∀ c p q, Declares os c p → Declares os c q → p = q)
    (hacyclic : ∀ i, ¬ TransGen (Declares os) i i) : ∃ h, Hierarchy.ofOrganizations os = .ok h := by
  have hlinkable : Linkable (os.flatMap Organization.links ++ empty.links) := by
    constructor
    · intro i hi
      rw [empty, List.append_nil, ← declares_iff] at hi
      exact hacyclic i (.single hi)
    · intro c p q hp hq
      rw [empty, List.append_nil, ← declares_iff] at hp hq
      exact hsingle c p q hp hq
  obtain ⟨f, hf⟩ := exists_addAll wellFormed_empty hlinkable
  have htakes := takes_addAll wellFormed_empty hf
  have hlineages := (lineages_iff_acyclic htakes.wellFormed).2 (by
    rw [partOf_eq_declares htakes]
    exact hacyclic)
  have hextend : Hierarchy.empty.forest.extend os = .ok f :=
    (extend_eq_ok_iff wellFormed_empty).2 ⟨hf, hlineages⟩
  obtain ⟨h, hh, -⟩ := Hierarchy.exists_extend hextend
  exact ⟨h, hh⟩

theorem single_of_ofOrganizations (hos : Hierarchy.ofOrganizations os = .ok h) {q : OrganizationId}
    (hp : Declares os c p) (hq : Declares os c q) : p = q := by
  rw [← partOf_eq_declares (Hierarchy.takes_ofOrganizations hos)] at hp hq
  exact Option.some.inj (hp.symm.trans hq)

theorem acyclic_of_ofOrganizations (hos : Hierarchy.ofOrganizations os = .ok h)
    (i : OrganizationId) : ¬ TransGen (Declares os) i i := by
  rw [← partOf_eq_declares (Hierarchy.takes_ofOrganizations hos)]
  exact h.acyclic i

/-- Records make a hierarchy if and only if no organization is declared a part of two others, or of
itself through others. -/
theorem exists_ofOrganizations_iff : (∃ h, Hierarchy.ofOrganizations os = .ok h) ↔
    (∀ c p q, Declares os c p → Declares os c q → p = q) ∧
      ∀ i, ¬ TransGen (Declares os) i i := by
  constructor
  · rintro ⟨h, hos⟩
    exact ⟨fun c p q => single_of_ofOrganizations hos, acyclic_of_ofOrganizations hos⟩
  · rintro ⟨hsingle, hacyclic⟩
    exact exists_ofOrganizations hsingle hacyclic

/-! ### Answers -/

theorem shows_of_ofOrganizations (hos : Hierarchy.ofOrganizations os = .ok h) : h.Shows os := by
  have htakes := Hierarchy.takes_ofOrganizations hos
  have hpartOf := partOf_eq_declares htakes
  have hmem : ∀ i, h.contains i = true ↔ Mentions os i := fun i =>
    Hierarchy.contains_iff.trans (mem_ids_iff_mentions htakes)
  have hget : ∀ i, Mentions os i → h.get? i = some (h.forest.record i) := fun i hi =>
    if_pos ((hmem i).2 hi)
  refine ⟨hmem, fun i hi => ?_, fun i hi => ?_, fun i hi => ?_, fun i hi => ?_⟩
  · refine ⟨_, hget i hi, rfl, fun p => ?_, nodup_parts h.wellFormed i, fun c => ?_⟩
    · rw [← hpartOf]
      exact Iff.rfl
    · rw [← hpartOf]
      exact mem_parts_iff h.wellFormed
  · exact if_neg fun hc => hi ((hmem i).1 hc)
  · have hid : i ∈ h.forest.ids := (mem_ids_iff_mentions htakes).2 hi
    obtain ⟨r, hr⟩ := Option.ne_none_iff_exists'.1 (mt Hierarchy.root?_eq_none_iff.1 (not_not.2 hid))
    obtain ⟨-, hreach, htop⟩ := Hierarchy.root?_eq_some_iff_reaches.1 hr
    have hrid := Hierarchy.mem_ids_of_root? hr
    refine ⟨h.forest.record r, ?_, hget r ((mem_ids_iff_mentions htakes).1 hrid), ?_, fun p hp => ?_⟩
    · rw [Hierarchy.resolveTopLevel, hr]
    · rw [← hpartOf]
      exact hreach
    · rw [← hpartOf] at hp
      exact Option.some_ne_none p (hp.symm.trans htop)
  · have hnone : h.root? i = none :=
      Hierarchy.root?_eq_none_iff.2 fun hid => hi ((mem_ids_iff_mentions htakes).1 hid)
    rw [Hierarchy.resolveTopLevel, hnone]

/-- Answers depend on what is declared and on what is mentioned, and on nothing else. -/
theorem Hierarchy.Shows.congr (hk : k.Shows os')
    (hdeclares : ∀ c p, Declares os' c p ↔ Declares os c p)
    (hmentions : ∀ i, Mentions os' i ↔ Mentions os i) : k.Shows os := by
  have hm : Mentions os' = Mentions os := by
    funext i
    exact propext (hmentions i)
  obtain ⟨hcontains, hget, hnone, hresolve, hnotFound⟩ := hk
  rw [declares_congr hdeclares, hm] at *
  exact ⟨hcontains, hget, hnone, hresolve, hnotFound⟩

/-- A path of single parents has one end at most. -/
theorem top_unique (hsingle : ∀ c p q, Declares os c p → Declares os c q → p = q)
    {r s : OrganizationId} (hr : ReflTransGen (Declares os) i r) (hrtop : ∀ p, ¬ Declares os r p)
    (hs : ReflTransGen (Declares os) i s) (hstop : ∀ p, ¬ Declares os s p) : r = s := by
  have hunique : Relator.RightUnique (Declares os) := fun c p q => hsingle c p q
  rcases ReflTransGen.total_of_right_unique hunique hr hs with hrs | hsr
  · rcases ReflTransGen.cases_head hrs with rfl | ⟨p, hp, -⟩
    · rfl
    · exact absurd hp (hrtop p)
  · rcases ReflTransGen.cases_head hsr with rfl | ⟨p, hp, -⟩
    · rfl
    · exact absurd hp (hstop p)

theorem Hierarchy.Shows.agrees (hsingle : ∀ c p q, Declares os c p → Declares os c q → p = q)
    (hh : h.Shows os) (hk : k.Shows os) : h.Agrees k := by
  refine ⟨fun i => ?_, fun i => ?_, fun i c => ?_, fun i => ?_⟩
  · rw [Bool.eq_iff_iff, hh.contains, hk.contains]
  all_goals by_cases hi : Mentions os i
  · obtain ⟨o, ho, -, hp, -⟩ := hh.get i hi
    obtain ⟨o', ho', -, hp', -⟩ := hk.get i hi
    have hpartOf : o.partOf = o'.partOf := Option.ext fun p => (hp p).trans (hp' p).symm
    rw [ho, ho', Option.map_some, Option.map_some, hpartOf]
  · rw [hh.get_none i hi, hk.get_none i hi]
  · obtain ⟨o, ho, -, -, -, hc⟩ := hh.get i hi
    obtain ⟨o', ho', -, -, -, hc'⟩ := hk.get i hi
    simp only [ho, ho', Option.some.injEq, exists_eq_left', hc, hc']
  · simp [hh.get_none i hi, hk.get_none i hi]
  · obtain ⟨o, ho, -, hreach, htop⟩ := hh.resolve i hi
    obtain ⟨o', ho', -, hreach', htop'⟩ := hk.resolve i hi
    rw [ho, ho', Except.map, Except.map, top_unique hsingle hreach htop hreach' htop']
  · rw [hh.resolve_notFound i hi, hk.resolve_notFound i hi]

end

/-! ### Records and hierarchies -/

/-- Records make a hierarchy if and only if no organization is declared a part of two others, or of
itself through others, and the hierarchy answers with what they declare.  Other records that declare and
mention the same, in another order or in other places, make a hierarchy that answers the same. -/
theorem ofOrganizations_of_declared (os : List Organization) :
    ((∃ h, Hierarchy.ofOrganizations os = .ok h) ↔
      (∀ c p q, Declares os c p → Declares os c q → p = q) ∧
        ∀ i, ¬ TransGen (Declares os) i i) ∧
    (∀ h, Hierarchy.ofOrganizations os = .ok h → h.Shows os) ∧
    ∀ os', (∀ c p, Declares os' c p ↔ Declares os c p) → (∀ i, Mentions os' i ↔ Mentions os i) →
      ((∃ k, Hierarchy.ofOrganizations os' = .ok k) ↔ ∃ h, Hierarchy.ofOrganizations os = .ok h) ∧
      ∀ h k, Hierarchy.ofOrganizations os = .ok h → Hierarchy.ofOrganizations os' = .ok k →
        h.Agrees k := by
  refine ⟨exists_ofOrganizations_iff, fun h => shows_of_ofOrganizations,
    fun os' hdeclares hmentions => ⟨?_, fun h k hos hos' => ?_⟩⟩
  · rw [exists_ofOrganizations_iff, exists_ofOrganizations_iff, declares_congr hdeclares]
  · have hk := (shows_of_ofOrganizations hos').congr hdeclares hmentions
    exact (shows_of_ofOrganizations hos).agrees (fun c p q => single_of_ofOrganizations hos) hk

/-- The same links, once in the records of the parts and once in that of the whole. -/
theorem ofOrganizations_of_declared_elsewhere :
    let id (s : String) : OrganizationId := ⟨s⟩
    let os : List Organization :=
      [.childOf (id "a.1") (id "a"), .childOf (id "a.2") (id "a"), .childOf (id "a.1.1") (id "a.1")]
    let os' : List Organization :=
      [⟨id "a.1", some (id "a"), [id "a.1.1"]⟩, ⟨id "a", none, [id "a.2", id "a.1"]⟩]
    (∀ c p, Declares os' c p ↔ Declares os c p) ∧ (∀ i, Mentions os' i ↔ Mentions os i) ∧
      ∃ h k, Hierarchy.ofOrganizations os = .ok h ∧ Hierarchy.ofOrganizations os' = .ok k ∧
        h.Shows os ∧ h.Agrees k := by
  intro id os os'
  have hdeclares : ∀ c p, Declares os' c p ↔ Declares os c p := by
    intro c p
    simp only [Declares, os, os', Organization.childOf, List.exists_mem_cons_iff]
    grind
  have hmentions : ∀ i, Mentions os' i ↔ Mentions os i := by
    intro i
    simp only [Mentions, os, os', Organization.childOf, List.exists_mem_cons_iff]
    grind
  obtain ⟨-, hshows, hagrees⟩ := ofOrganizations_of_declared os
  obtain ⟨-, hagrees⟩ := hagrees os' hdeclares hmentions
  let h : Hierarchy :=
    ⟨⟨[id "a.1", id "a", id "a.2", id "a.1.1"],
      [(id "a.1", id "a"), (id "a.2", id "a"), (id "a.1.1", id "a.1")]⟩, os, by decide⟩
  let k : Hierarchy :=
    ⟨⟨[id "a.1", id "a", id "a.1.1", id "a.2"],
      [(id "a.1", id "a"), (id "a.1.1", id "a.1"), (id "a.2", id "a")]⟩, os', by decide⟩
  have hos : Hierarchy.ofOrganizations os = .ok h := Hierarchy.extend_eq_ok_iff.2 (by decide)
  have hos' : Hierarchy.ofOrganizations os' = .ok k := Hierarchy.extend_eq_ok_iff.2 (by decide)
  exact ⟨hdeclares, hmentions, h, k, hos, hos', hshows h hos, hagrees h k hos hos'⟩

end PublicationIndicator
