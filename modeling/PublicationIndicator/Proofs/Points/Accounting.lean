import PublicationIndicator.Proofs.Organization.Ancestry
import PublicationIndicator.Proofs.Points.Conservation
import PublicationIndicator.Proofs.Points.Crowd

/-!
# PublicationIndicator.Proofs.Points.Accounting — where each affiliation counts

`PointEvaluation.Accounts` says that a result has each pair of a creator and an affiliation once: among
what is left out, or with the institution at the top of the tree in which the affiliation stands.  An
institution is missing only if every pair that it has would be rounded to nothing.  Every score accounts
for the pairs of its publication in this way (`accounts_of_score`).
-/

namespace PublicationIndicator

open Decimal

/-- Whose entry it is, and through which affiliation. -/
def CreatorPoints.pair (x : CreatorPoints) : CreatorIdentity × OrganizationId :=
  (x.creator, x.affiliation)

/-- Who is left out, and which affiliation. -/
def ExcludedAffiliation.pair (x : ExcludedAffiliation) : CreatorIdentity × OrganizationId :=
  (x.creator, x.affiliation)

/-- A result has each pair that a publication names once, where it belongs, and adds up what the pairs
earn. -/
structure PointEvaluation.Accounts (e : PointEvaluation) (f : PublicationFacts) (h : Hierarchy) :
    Prop where
  /-- The pairs that are left out are those whose affiliation is unknown. -/
  excluded : ∀ x, (e.excluded.map ExcludedAffiliation.pair).count x =
    if x ∈ f.pairs ∧ h.contains x.2 = false then 1 else 0
  /-- An institution has the pairs whose affiliation leads to it. -/
  entries : ∀ p ∈ e.calculation.institutions, ∀ x, (p.entries.map CreatorPoints.pair).count x =
    if x ∈ f.pairs ∧ h.root? x.2 = some p.institution then 1 else 0
  points : ∀ p ∈ e.calculation.institutions, ∀ x ∈ p.entries,
    x.points.toRat = toPoints (f.due h e.calculation.pool x.creator p.institution)
  /-- An institution is there unless all of its pairs are rounded to nothing. -/
  earning : ∀ i, i ∈ e.calculation.institutionIds ↔ ∃ x ∈ f.pairs, h.root? x.2 = some i ∧
    toPoints (f.due h e.calculation.pool x.1 i) ≠ 0
  ascending : e.calculation.institutionIds.Pairwise (fun i j => key i < key j)
  top : ∀ i ∈ e.calculation.institutionIds, ∃ o, h.get? i = some o ∧ o.partOf = none
  involved : ∀ p ∈ e.calculation.institutions, ∃ s, h.subOrganizationsOf p.institution = .ok s ∧
    ∀ a ∈ p.involvedOrganizations, a ∈ s
  sum : ∀ p ∈ e.calculation.institutions,
    p.points.toRat = (p.entries.map fun x => x.points.toRat).sum
  total : e.calculation.totalPoints.toRat =
    (e.calculation.institutions.map fun p => p.points.toRat).sum
  /-- Creators with a share are counted in 32 bits. -/
  shareCount : e.calculation.creatorShareCount = (f.sharing h).card % 2 ^ 32
  collaboration : e.calculation.isInternationalCollaboration = true ↔ 2 ≤ (f.tops h).card
  factor : e.calculation.collaborationFactor.toRat =
    if e.calculation.isInternationalCollaboration then 13 / 10 else 1

/-! ### What is left out -/

theorem map_pair_unresolved (f : PublicationFacts) (h : Hierarchy) :
    (f.unresolved h).map ExcludedAffiliation.pair =
      ((mergeCreators f.creators).flatMap Creator.pairs).filter fun x => (h.root? x.2).isNone := by
  rw [PublicationFacts.unresolved, List.map_flatMap, List.filter_flatMap]
  refine List.flatMap_congr fun c _ => ?_
  rw [Creator.unresolved, Creator.pairs, List.filter_map, List.map_map]
  rfl

theorem mem_map_pair_unresolved {f : PublicationFacts} {h : Hierarchy}
    {x : CreatorIdentity × OrganizationId} :
    x ∈ (f.unresolved h).map ExcludedAffiliation.pair ↔ x ∈ f.pairs ∧ h.contains x.2 = false := by
  rw [map_pair_unresolved, List.mem_filter, PublicationFacts.mem_flatMap_pairs_merged,
    Hierarchy.contains_eq_false_iff, Option.isNone_iff_eq_none]

/-- What is left out are the pairs whose affiliation is unknown, each of them once. -/
theorem count_unresolved (f : PublicationFacts) (h : Hierarchy)
    (x : CreatorIdentity × OrganizationId) :
    ((f.unresolved h).map ExcludedAffiliation.pair).count x =
      if x ∈ f.pairs ∧ h.contains x.2 = false then 1 else 0 := by
  have hn : ((f.unresolved h).map ExcludedAffiliation.pair).Nodup := by
    rw [map_pair_unresolved]
    exact (nodup_pairs f.creators).filter _
  rw [hn.count]
  exact if_congr mem_map_pair_unresolved rfl rfl

/-! ### Institutions -/

theorem mem_institutionsOf_sharers {f : PublicationFacts} {h : Hierarchy} {i : OrganizationId} :
    i ∈ institutionsOf h (f.sharers h) ↔ i ∈ f.tops h := by
  rw [mem_institutionsOf, PublicationFacts.mem_tops]
  constructor
  · rintro ⟨x, hx, hi⟩
    obtain ⟨a, ha⟩ := Creator.mem_roots.1 hi
    exact ⟨x.identity, a, PublicationFacts.mem_stakes_iff_exists_sharer.2
      ⟨x, hx, rfl, Creator.mem_resolved.2 ha⟩⟩
  · rintro ⟨c, a, hs⟩
    obtain ⟨x, hx, -, hp⟩ := PublicationFacts.mem_stakes_iff_exists_sharer.1 hs
    exact ⟨x, hx, Creator.mem_roots.2 ⟨a, Creator.mem_resolved.1 hp⟩⟩

/-- Institutions with points come in the order in which points are asked for. -/
theorem sublist_of_mapM {credits : List (OrganizationId × CreatorPoints)} {ids : List OrganizationId}
    {institutions : List (Option InstitutionPoints)}
    (hids : ids.mapM (institutionPoints? credits) = .ok institutions) :
    ((institutions.filterMap id).map InstitutionPoints.institution).Sublist ids := by
  have hall := mapM_eq_ok_iff.1 hids
  clear hids
  induction hall with
  | nil => exact .slnil
  | @cons i p? ids institutions hp _ ih =>
    cases p? with
    | none =>
      rw [List.filterMap_cons_none rfl]
      exact ih.cons i
    | some p =>
      obtain ⟨rfl, -⟩ := entries_of_institutionPoints? hp
      rw [List.filterMap_cons_some (rfl : id (some p) = some p), List.map_cons]
      exact ih.cons_cons p.institution

/-- Credits come to something if one of them does. -/
theorem creditsOf_ne_zero_iff {credits : List (OrganizationId × CreatorPoints)} {i : OrganizationId}
    (hpoints : ∀ x ∈ credits, x.2.points.IsPoints) :
    creditsOf credits i ≠ 0 ↔ ∃ x ∈ credits, x.1 = i ∧ x.2.points.toRat ≠ 0 := by
  constructor
  · intro hne
    by_contra hnone
    refine hne (List.sum_eq_zero fun q hq => ?_)
    obtain ⟨x, hx, rfl⟩ := List.mem_map.1 hq
    obtain ⟨hmem, hi⟩ := List.mem_filter.1 hx
    by_contra hx0
    exact hnone ⟨x, hmem, by simpa using hi, hx0⟩
  · rintro ⟨x, hx, hi, hne⟩ hzero
    -- no credit is below zero, so that none makes up for another
    have hnonneg : ∀ q ∈ (credits.filter fun x => x.1 = i).map fun x => x.2.points.toRat, 0 ≤ q := by
      intro q hq
      obtain ⟨y, hy, rfl⟩ := List.mem_map.1 hq
      exact (hpoints y (List.mem_filter.1 hy).1).nonneg
    have hmem : x ∈ credits.filter fun x => x.1 = i := List.mem_filter.2 ⟨hx, by simpa using hi⟩
    exact hne (List.all_zero_of_le_zero_le_of_sum_eq_zero hnonneg hzero (List.mem_map_of_mem hmem))

namespace PointCalculation.Distributes

variable {c : PointCalculation} {f : PublicationFacts} {h : Hierarchy}
  {credits : List (OrganizationId × CreatorPoints)} {p : InstitutionPoints} {i : OrganizationId}

theorem entries (hc : c.Distributes f h credits) (hp : p ∈ c.institutions) :
    p.entries = (credits.filter fun x => x.1 = p.institution).map (·.2) := by
  obtain ⟨institutions, hids, hinst⟩ := hc.institutions
  rw [hinst] at hp
  exact entries_of_mem_filterMap hids hp

theorem map_pair_entries (hc : c.Distributes f h credits) (hp : p ∈ c.institutions) :
    p.entries.map CreatorPoints.pair =
      ((f.stakes h).filter fun s => s.2.2 = p.institution).map fun s => (s.1, s.2.1) := by
  rw [hc.entries hp, ← hc.stakes, List.filter_map, List.map_map, List.map_map]
  rfl

theorem mem_map_pair_entries (hc : c.Distributes f h credits) (hp : p ∈ c.institutions)
    {x : CreatorIdentity × OrganizationId} : x ∈ p.entries.map CreatorPoints.pair ↔
      x ∈ f.pairs ∧ h.root? x.2 = some p.institution := by
  obtain ⟨b, a⟩ := x
  rw [hc.map_pair_entries hp, ← PublicationFacts.mem_stakes, List.mem_map]
  constructor
  · rintro ⟨⟨b', a', i⟩, hs, he⟩
    cases he
    obtain ⟨hmem, hi⟩ := List.mem_filter.1 hs
    obtain rfl : i = p.institution := by simpa using hi
    exact hmem
  · intro hs
    exact ⟨_, List.mem_filter.2 ⟨hs, by simp⟩, rfl⟩

/-- The entries of an institution are the pairs that lead to it, each of them once. -/
theorem count_entries (hc : c.Distributes f h credits) (hp : p ∈ c.institutions)
    (x : CreatorIdentity × OrganizationId) : (p.entries.map CreatorPoints.pair).count x =
      if x ∈ f.pairs ∧ h.root? x.2 = some p.institution then 1 else 0 := by
  have hn : (p.entries.map CreatorPoints.pair).Nodup := by
    rw [hc.map_pair_entries hp]
    exact (PublicationFacts.nodup_stakes f h).sublist (List.filter_sublist.map _)
  rw [hn.count]
  exact if_congr (hc.mem_map_pair_entries hp) rfl rfl

theorem points_of_mem_entries (hc : c.Distributes f h credits) (hp : p ∈ c.institutions)
    {x : CreatorPoints} (hx : x ∈ p.entries) :
    x.points.toRat = toPoints (f.due h c.pool x.creator p.institution) := by
  rw [hc.entries hp] at hx
  obtain ⟨⟨i, x⟩, hy, rfl⟩ := List.mem_map.1 hx
  obtain ⟨hmem, hi⟩ := List.mem_filter.1 hy
  obtain rfl : i = p.institution := by simpa using hi
  exact hc.settles _ hmem

/-- The institutions with points are those whose credits come to something. -/
theorem mem_institutionIds_iff_creditsOf (hc : c.Distributes f h credits) :
    i ∈ c.institutionIds ↔ i ∈ f.tops h ∧ creditsOf credits i ≠ 0 := by
  obtain ⟨institutions, hids, hinst⟩ := hc.institutions
  rw [← mem_institutionsOf_sharers]
  constructor
  · intro hi
    obtain ⟨p, hp, rfl⟩ := List.mem_map.1 hi
    have hmem : some p ∈ institutions := by simpa [hinst] using hp
    obtain ⟨i, hi, hpoints⟩ := exists_of_mem_mapM hids hmem
    obtain ⟨rfl, -⟩ := entries_of_institutionPoints? hpoints
    -- there is one answer for the institution, and its value is what the credits come to
    obtain ⟨p?, hp?, -, hvalue⟩ := exists_institutionPoints? hc.points hc.le p.institution
    cases hpoints.symm.trans hp?
    refine ⟨hi, ?_⟩
    rw [← hvalue]
    exact (hc.exact.institutions p hp).positive.ne'
  · rintro ⟨hi, hne⟩
    obtain ⟨p?, hmem, hpoints⟩ := exists_mem_of_mapM hids hi
    obtain ⟨p?', hp?, -, hvalue⟩ := exists_institutionPoints? hc.points hc.le i
    cases hpoints.symm.trans hp?
    cases p? with
    | none => exact absurd hvalue.symm hne
    | some p =>
      obtain ⟨rfl, -⟩ := entries_of_institutionPoints? hpoints
      refine List.mem_map_of_mem ?_
      simpa [hinst] using hmem

/-- An institution has points if one of the pairs that lead to it earns something. -/
theorem mem_institutionIds_iff (hc : c.Distributes f h credits) :
    i ∈ c.institutionIds ↔
      ∃ x ∈ f.pairs, h.root? x.2 = some i ∧ toPoints (f.due h c.pool x.1 i) ≠ 0 := by
  rw [hc.mem_institutionIds_iff_creditsOf, creditsOf_ne_zero_iff hc.points]
  constructor
  · rintro ⟨-, x, hx, rfl, hne⟩
    obtain ⟨hpair, hroot⟩ := PublicationFacts.mem_stakes.1 (hc.mem_stakes hx)
    rw [hc.settles x hx] at hne
    exact ⟨x.2.pair, hpair, hroot, hne⟩
  · rintro ⟨⟨b, a⟩, hpair, hroot, hne⟩
    have hs : (b, a, i) ∈ f.stakes h := PublicationFacts.mem_stakes.2 ⟨hpair, hroot⟩
    refine ⟨PublicationFacts.mem_tops.2 ⟨b, a, hs⟩, ?_⟩
    rw [← hc.stakes] at hs
    obtain ⟨x, hx, he⟩ := List.mem_map.1 hs
    cases he
    refine ⟨x, hx, rfl, ?_⟩
    rw [hc.settles x hx]
    exact hne

theorem ascending (hc : c.Distributes f h credits) :
    c.institutionIds.Pairwise (fun i j => key i < key j) := by
  obtain ⟨institutions, hids, hinst⟩ := hc.institutions
  rw [institutionIds, hinst]
  exact (SortedSet.ascending _).sublist (sublist_of_mapM hids)

theorem exists_root? (hc : c.Distributes f h credits) (hi : i ∈ c.institutionIds) :
    ∃ a, h.root? a = some i := by
  obtain ⟨htop, -⟩ := hc.mem_institutionIds_iff_creditsOf.1 hi
  obtain ⟨_, a, hs⟩ := PublicationFacts.mem_tops.1 htop
  exact ⟨a, (PublicationFacts.mem_stakes.1 hs).2⟩

/-- What an institution earns points through, apart from itself, stands below it. -/
theorem exists_involved (hc : c.Distributes f h credits) (hp : p ∈ c.institutions) :
    ∃ s, h.subOrganizationsOf p.institution = .ok s ∧ ∀ a ∈ p.involvedOrganizations, a ∈ s := by
  obtain ⟨_, hroot⟩ := hc.exists_root? (List.mem_map_of_mem hp)
  obtain ⟨s, hs, hmem⟩ := Hierarchy.exists_subOrganizationsOf (Hierarchy.mem_ids_of_root? hroot)
  refine ⟨s, hs, fun a ha => ?_⟩
  obtain ⟨hentry, hne⟩ := List.mem_filter.1 (SortedSet.mem_ofList.1 ha)
  have hne : a ≠ p.institution := by simpa using hne
  obtain ⟨x, hx, rfl⟩ := List.mem_map.1 hentry
  have hpair : x.pair ∈ p.entries.map CreatorPoints.pair := List.mem_map_of_mem hx
  obtain ⟨-, hroot⟩ := (hc.mem_map_pair_entries hp).1 hpair
  exact (hmem x.affiliation).2 (Hierarchy.transGen_of_root? hroot hne)

end PointCalculation.Distributes

/-! ### Scores -/

/-- There are as many institutions as tops that some pair leads to. -/
theorem length_institutionsOf (f : PublicationFacts) (h : Hierarchy) :
    (institutionsOf h (f.sharers h)).length = (f.tops h).card := by
  have hset : (institutionsOf h (f.sharers h)).toFinset = f.tops h := by
    ext i
    rw [List.mem_toFinset, mem_institutionsOf_sharers]
  rw [← hset, List.toFinset_card_of_nodup (nodup_institutionsOf h (f.sharers h))]

theorem toRat_collaborationFactor_eq (n : Nat) :
    (collaborationFactor n).toRat = if isCollaboration n then 13 / 10 else 1 := by
  unfold collaborationFactor
  split
  · exact toRat_ofTenths 13
  · have hone : one.toRat = (10 : ℕ) / 10 := toRat_ofByte 1
    rw [hone]
    norm_num

/-- A score has each pair of a creator and an affiliation once, among what is left out or with the top
of the affiliation, and adds up what the pairs earn. -/
theorem accounts_of_score {f : PublicationFacts} {h : Hierarchy} {e : PointEvaluation}
    (he : score f h = .ok e) : e.Accounts f h := by
  obtain ⟨base, -, -, -, hresult, hexcluded, -⟩ := exists_of_score he
  obtain ⟨_, _, _, _, -, -, -, -, hcalc⟩ := exists_of_shareOut hresult
  obtain ⟨credits, hc⟩ := exists_distributes he
  have hcollaboration : e.calculation.isInternationalCollaboration =
      isCollaboration (f.tops h).card := by
    rw [hcalc, length_institutionsOf]
  exact {
    excluded := by
      rw [hexcluded]
      exact count_unresolved f h
    entries := fun p hp => hc.count_entries hp
    points := fun p hp x => hc.points_of_mem_entries hp
    earning := fun i => hc.mem_institutionIds_iff
    ascending := hc.ascending
    top := by
      intro i hi
      obtain ⟨_, hroot⟩ := hc.exists_root? hi
      exact Hierarchy.exists_get?_of_root? hroot
    involved := fun p => hc.exists_involved
    sum := fun p hp => (hc.exact.institutions p hp).sum
    total := hc.exact.total
    shareCount := by
      rw [hcalc, ← PublicationFacts.length_sharers]
      rfl
    collaboration := by
      rw [hcollaboration, isCollaboration, decide_eq_true_eq]
    factor := by
      rw [hcollaboration, ← toRat_collaborationFactor_eq, hcalc, length_institutionsOf] }

/-- One creator more than 32 bits count: all have a share, and one is counted. -/
theorem creatorShareCount_crowd :
    let h : Hierarchy :=
      ⟨⟨[organizationOf 'a' 0], []⟩, [.blank (organizationOf 'a' 0)], by decide⟩
    let f : PublicationFacts := crowd 4294967297 (by decide)
    (f.sharing h).card = 4294967297 ∧
    ∃ e, score f h = .ok e ∧ e.calculation.creatorShareCount = 1 := by
  intro h f
  have ha : h.contains (organizationOf 'a' 0) = true := by decide
  obtain ⟨e, he, hcount⟩ := (score_crowd (n := 4294967297) ha (by decide)).2 (by decide)
  exact ⟨card_sharing_crowd ha, e, he, hcount⟩

/-- Pairs that are named twice, two of them with the same top, and one that leads nowhere. -/
theorem accounts_of_score_repeated_pair :
    let id (s : String) : OrganizationId := ⟨s⟩
    let h : Hierarchy :=
      ⟨⟨[id "b.1", id "b", id "a"], [(id "b.1", id "b")]⟩, [.childOf (id "b.1") (id "b"), .blank (id "a")],
        by decide⟩
    let f : PublicationFacts :=
      ⟨⟨"p"⟩, .academicMonograph, ⟨"c", .publisher, .levelTwo⟩,
        [⟨.verified "x", [id "b.1", id "?", id "b.1"]⟩, ⟨.unverified "x", [id "a"]⟩,
          ⟨.verified "x", [id "b", id "b.1", id "?"]⟩], by decide⟩
    ∃ e, score f h = .ok e ∧ e.calculation.institutionIds = [id "a", id "b"] ∧ e.Accounts f h := by
  intro id h f
  have hids : (match score f h with
      | .ok e => e.calculation.institutionIds
      | .error _ => []) = [id "a", id "b"] := by decide +kernel
  cases he : score f h with
  | error err =>
    rw [he] at hids
    cases hids
  | ok e =>
    rw [he] at hids
    exact ⟨e, rfl, hids, accounts_of_score he⟩

end PublicationIndicator
