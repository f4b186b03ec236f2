import PublicationIndicator.Proofs.Organization.Snapshot
import PublicationIndicator.Proofs.Points.Crowd

/-!
# PublicationIndicator.Proofs.Points.Agreement — scoring through a registry and scoring directly

Points depend on a hierarchy only through the tops that it gives to the affiliations (`score_congr`).  A
snapshot of a registry gives them the same tops as the hierarchy that its records declare, so that
scoring through the registry and scoring in the hierarchy agree (`scoreThrough_agrees`).
-/

namespace PublicationIndicator

/-! ### What points depend on -/

section

variable {f : PublicationFacts} {h k : Hierarchy}
  (hroot : ∀ a ∈ f.affiliations, h.root? a = k.root? a)
include hroot

theorem resolved_congr {c : Creator} (hc : c ∈ mergeCreators f.creators) :
    c.resolved h = c.resolved k := by
  refine List.filterMap_congr fun a ha => ?_
  rw [hroot a (mem_affiliations_of_mem_merged hc ha)]

theorem roots_congr {c : Creator} (hc : c ∈ mergeCreators f.creators) : c.roots h = c.roots k := by
  rw [Creator.roots, Creator.roots, resolved_congr hroot hc]

theorem unresolved_congr : f.unresolved h = f.unresolved k := by
  refine List.flatMap_congr fun c hc => ?_
  have hfilter : (c.affiliations.filter fun a => (h.root? a).isNone) =
      c.affiliations.filter fun a => (k.root? a).isNone := by
    refine List.filter_congr fun a ha => ?_
    rw [hroot a (mem_affiliations_of_mem_merged hc ha)]
  rw [Creator.unresolved, Creator.unresolved, hfilter]

theorem sharers_congr : f.sharers h = f.sharers k := by
  refine List.filter_congr fun c hc => ?_
  rw [roots_congr hroot hc]

theorem credits_congr {c : Creator} (hc : c ∈ mergeCreators f.creators) (share : Decimal) :
    c.credits h share = c.credits k share := by
  have hunder : c.under h = c.under k := by
    funext i
    rw [Creator.under, Creator.under, resolved_congr hroot hc]
  rw [Creator.credits, Creator.credits, resolved_congr hroot hc, roots_congr hroot hc, hunder]

theorem shareOut_congr (base : Decimal) {cs : List Creator} (hcs : cs ⊆ mergeCreators f.creators) :
    shareOut f h base cs = shareOut f k base cs := by
  have hids : institutionsOf h cs = institutionsOf k cs := by
    rw [institutionsOf, institutionsOf,
      List.flatMap_congr fun c hc => roots_congr hroot (hcs hc)]
  have hcredits : ∀ share, cs.mapM (fun c => c.credits h share) =
      cs.mapM (fun c => c.credits k share) :=
    fun share => mapM_congr fun c hc => credits_congr hroot (hcs hc) share
  rw [shareOut, shareOut]
  simp only [hids, hcredits]

/-- Points depend on a hierarchy only through the tops that it gives to the affiliations. -/
theorem score_congr : score f h = score f k := by
  have hsharers := sharers_congr hroot
  have hunresolved := unresolved_congr hroot
  have hshareOut : ∀ base, shareOut f h base (f.sharers k) = shareOut f k base (f.sharers k) :=
    fun base => shareOut_congr hroot base List.filter_sublist.subset
  rw [PublicationFacts.sharers, PublicationFacts.sharers] at hsharers
  rw [PublicationFacts.unresolved, PublicationFacts.unresolved] at hunresolved
  simp only [PublicationFacts.sharers] at hshareOut
  rw [score, score, calculate, calculate]
  simp only [hsharers, hunresolved, hshareOut]

end

/-! ### Exclusions -/

theorem mem_unresolved {f : PublicationFacts} {h : Hierarchy} {x : ExcludedAffiliation}
    (hx : x ∈ f.unresolved h) : x.affiliation ∈ f.affiliations ∧
      x.affiliation ∉ h.forest.ids ∧ x.reason = .notInSnapshot := by
  obtain ⟨c, hc, hx⟩ := List.mem_flatMap.1 hx
  obtain ⟨a, ha, rfl⟩ := List.mem_map.1 hx
  obtain ⟨ha, hnone⟩ := List.mem_filter.1 ha
  exact ⟨mem_affiliations_of_mem_merged hc ha,
    Hierarchy.root?_eq_none_iff.1 (Option.isNone_iff_eq_none.1 hnone), rfl⟩

/-- A snapshot that pictures a hierarchy has a failure for everything that the hierarchy does not
mention. -/
theorem Snapshot.Pictures.find?_failures {h : Hierarchy} {done : List OrganizationId} {s : Snapshot}
    (hs : s.Pictures h done) {a : OrganizationId} (ha : a ∈ done) (hmem : a ∉ h.forest.ids) :
    s.failures.find? (fun e => e.1 = a) = some (a, .notFound a) := by
  have hmiss : a ∈ done.filter fun a => ¬ h.contains a := by
    refine List.mem_filter.2 ⟨ha, ?_⟩
    simpa [Hierarchy.contains_iff] using hmem
  rw [hs.failures]
  cases hfind : ((done.filter fun a => ¬ h.contains a).map fun a =>
      (a, FetchError.notFound a)).find? (fun e => e.1 = a) with
  | none =>
    have hne := List.find?_eq_none.1 hfind (a, .notFound a) (List.mem_map.2 ⟨a, hmiss, rfl⟩)
    exact absurd (decide_eq_true rfl) hne
  | some e =>
    obtain ⟨b, -, rfl⟩ := List.mem_map.1 (List.mem_of_find?_eq_some hfind)
    have hb : b = a := by simpa using List.find?_some hfind
    rw [hb]

/-- What a snapshot's failures make of the affiliations that are left out. -/
theorem excluded_attribute {f : PublicationFacts} {h : Hierarchy} {s : Snapshot}
    (hs : s.Pictures h (firstSeen f.affiliations)) {e : PointEvaluation}
    (he : e.excluded = f.unresolved h) :
    List.Forall₂ (fun x x' => x'.creator = x.creator ∧ x'.affiliation = x.affiliation ∧
      x.reason = .notInSnapshot ∧
      x'.reason = .fetchFailed (FetchError.notFound x.affiliation).message)
      e.excluded (e.attribute s.failures).excluded := by
  rw [PointEvaluation.attribute, List.forall₂_map_right_iff, List.forall₂_same]
  intro x hx
  rw [he] at hx
  obtain ⟨ha, hmem, hreason⟩ := mem_unresolved hx
  rw [hs.find?_failures (mem_firstSeen.2 ha) hmem]
  exact ⟨rfl, rfl, hreason, rfl⟩

/-! ### Agreement -/

section

variable {os : List Organization} {h : Hierarchy} (hos : Hierarchy.ofOrganizations os = .ok h)
  (hclosed : ∀ o ∈ os, ∀ p, o.partOf = some p → ∃ o' ∈ os, p = o'.id ∨ p ∈ o'.hasPart)
include hos hclosed

/-- A snapshot of the registry of a list gives the affiliations the tops that the list gives them. -/
theorem score_take (f : PublicationFacts) : score f (Snapshot.take
    (OrganizationRegistry.ofOrganizations os).fetch f.affiliations).hierarchy = score f h := by
  have hs := Snapshot.pictures_take (OrganizationRegistry.reflects_hierarchy hos hclosed)
    f.affiliations
  exact score_congr fun a ha => hs.root?_eq (mem_firstSeen.2 ha)

/-- Scoring through the registry of a list of records and scoring in the hierarchy that the list
declares agree, if every parent has a record or is a part in one.  Both fail with the same error, and refuse
the facts for the same reason if 32 bits count the pairs in the hierarchy, or both give the same points and
leave out the same affiliations in the same order: the one because they are not in the hierarchy, the other
because the registry did not find them. -/
theorem scoreThrough_agrees (f : PublicationFacts) :
    (∃ err, score f h = .error err ∧
      scoreThrough (OrganizationRegistry.ofOrganizations os).fetch f = .error err ∧
      ((f.resolvable h).card < 2 ^ 32 → ∃ reason, err = .invalidFacts reason)) ∨
    (∃ e e', score f h = .ok e ∧
      scoreThrough (OrganizationRegistry.ofOrganizations os).fetch f = .ok e' ∧
      e'.calculation = e.calculation ∧
      List.Forall₂ (fun x x' => x'.creator = x.creator ∧ x'.affiliation = x.affiliation ∧
        x.reason = .notInSnapshot ∧
        x'.reason = .fetchFailed (FetchError.notFound x.affiliation).message)
        e.excluded e'.excluded) := by
  have hs := Snapshot.pictures_take (OrganizationRegistry.reflects_hierarchy hos hclosed)
    f.affiliations
  rw [scoreThrough, score_take hos hclosed]
  cases he : score f h with
  | ok e =>
    obtain ⟨base, -, -, -, -, hexcluded, -⟩ := exists_of_score he
    exact .inr ⟨e, _, rfl, rfl, rfl, excluded_attribute hs hexcluded⟩
  | error err =>
    refine .inl ⟨err, rfl, rfl, fun hcount => ?_⟩
    rcases score_cases f h hcount with ⟨reason, -, hrefused⟩ | ⟨-, e, hok, -⟩
    · exact ⟨reason, Except.error.inj (he.symm.trans hrefused)⟩
    · rw [he] at hok
      cases hok

end

/-- As many creators as 32 bits count as nobody: both fail, and neither refuses the facts. -/
theorem scoreThrough_crowd :
    let os : List Organization := [.blank (organizationOf 'a' 0)]
    let h : Hierarchy := ⟨⟨[organizationOf 'a' 0], []⟩, os, by decide⟩
    let f : PublicationFacts := crowd 4294967296 (by decide)
    Hierarchy.ofOrganizations os = .ok h ∧
    (∀ o ∈ os, ∀ p, o.partOf = some p → ∃ o' ∈ os, p = o'.id ∨ p ∈ o'.hasPart) ∧
    score f h = .error (.defect (.overflow .creatorShare)) ∧
    scoreThrough (OrganizationRegistry.ofOrganizations os).fetch f =
      .error (.defect (.overflow .creatorShare)) := by
  intro os h f
  have hos : Hierarchy.ofOrganizations os = .ok h := Hierarchy.extend_eq_ok_iff.2 (by decide)
  have hclosed : ∀ o ∈ os, ∀ p, o.partOf = some p → ∃ o' ∈ os, p = o'.id ∨ p ∈ o'.hasPart := by
    simp [os, Organization.blank]
  have hscore : score f h = .error (.defect (.overflow .creatorShare)) :=
    (score_crowd (by decide) (by decide)).1 (by decide)
  refine ⟨hos, hclosed, hscore, ?_⟩
  rw [scoreThrough, score_take hos hclosed, hscore]
  rfl

/-- Records that are there twice, parts without a record and an affiliation that nothing mentions. -/
theorem scoreThrough_agrees_duplicates :
    let id (s : String) : OrganizationId := ⟨s⟩
    let os : List Organization :=
      [⟨id "a.1", none, [id "a.1.1"]⟩, ⟨id "a", none, [id "a.1"]⟩, ⟨id "a.1", some (id "a"), []⟩,
        ⟨id "b", none, [id "b.1"]⟩, .blank (id "b")]
    let h : Hierarchy :=
      ⟨⟨[id "a.1", id "a.1.1", id "a", id "b", id "b.1"],
        [(id "a.1.1", id "a.1"), (id "a.1", id "a"), (id "b.1", id "b")]⟩, os, by decide⟩
    let f : PublicationFacts :=
      ⟨⟨"p"⟩, .academicMonograph, ⟨"c", .series, .levelTwo⟩,
        [⟨.verified "x", [id "a.1.1", id "?", id "a"]⟩, ⟨.unverified "y", [id "?", id "b.1"]⟩], by decide⟩
    Hierarchy.ofOrganizations os = .ok h ∧
    (∀ o ∈ os, ∀ p, o.partOf = some p → ∃ o' ∈ os, p = o'.id ∨ p ∈ o'.hasPart) ∧
    ((∃ err, score f h = .error err ∧
      scoreThrough (OrganizationRegistry.ofOrganizations os).fetch f = .error err ∧
      ((f.resolvable h).card < 2 ^ 32 → ∃ reason, err = .invalidFacts reason)) ∨
    (∃ e e', score f h = .ok e ∧
      scoreThrough (OrganizationRegistry.ofOrganizations os).fetch f = .ok e' ∧
      e'.calculation = e.calculation ∧
      List.Forall₂ (fun x x' => x'.creator = x.creator ∧ x'.affiliation = x.affiliation ∧
        x.reason = .notInSnapshot ∧
        x'.reason = .fetchFailed (FetchError.notFound x.affiliation).message)
        e.excluded e'.excluded)) := by
  intro id os h f
  have hos : Hierarchy.ofOrganizations os = .ok h := Hierarchy.extend_eq_ok_iff.2 (by decide)
  have hclosed : ∀ o ∈ os, ∀ p, o.partOf = some p → ∃ o' ∈ os, p = o'.id ∨ p ∈ o'.hasPart := by
    simp [os, Organization.blank]
  exact ⟨hos, hclosed, scoreThrough_agrees hos hclosed f⟩

end PublicationIndicator
