import Mathlib.Data.Finset.Option
import Mathlib.Data.Finset.Union
import Mathlib.Data.List.Flatten
import PublicationIndicator.Points.Scoring
import PublicationIndicator.Proofs.Publication.FirstSeen

/-!
# PublicationIndicator.Proofs.Points.Creators — who has a share, and through what

What a publication names for a creator is spread over all entries with the creator's identity.  As sets:
`PublicationFacts.affiliationsOf` are the affiliations, `PublicationFacts.institutionsOf` the tops of
the trees that they stand in, and `PublicationFacts.affiliationsUnder` those that lead to one top.  The
lists that the calculation counts with have these elements, each of them once (`length_roots`,
`length_under`).
-/

namespace PublicationIndicator

namespace PublicationFacts

/-- The affiliations that a publication names for a creator. -/
def affiliationsOf (f : PublicationFacts) (c : CreatorIdentity) : Finset OrganizationId :=
  ((f.creators.filter fun c' => c'.identity = c).flatMap Creator.affiliations).toFinset

/-- The affiliations of a creator that lead to an institution. -/
def affiliationsUnder (f : PublicationFacts) (h : Hierarchy) (c : CreatorIdentity)
    (i : OrganizationId) : Finset OrganizationId :=
  (f.affiliationsOf c).filter fun a => h.root? a = some i

/-- The institutions that a creator's affiliations lead to. -/
def institutionsOf (f : PublicationFacts) (h : Hierarchy) (c : CreatorIdentity) :
    Finset OrganizationId :=
  (f.affiliationsOf c).biUnion fun a => (h.root? a).toFinset

/-- The creators who have a share in the points: those with an affiliation in the hierarchy. -/
def sharers (f : PublicationFacts) (h : Hierarchy) : List Creator :=
  (mergeCreators f.creators).filter fun c => c.roots h ≠ []

end PublicationFacts

/-! ### Creators merged -/

theorem mem_mergeCreators {cs : List Creator} {c : Creator} : c ∈ mergeCreators cs ↔
    (∃ c' ∈ cs, c'.identity = c.identity) ∧
      c.affiliations =
        firstSeen ((cs.filter fun c' => c'.identity = c.identity).flatMap Creator.affiliations) := by
  rw [mergeCreators, List.mem_map]
  constructor
  · rintro ⟨i, hi, rfl⟩
    exact ⟨List.mem_map.1 (mem_firstSeen.1 hi), rfl⟩
  · rintro ⟨⟨c', hc', hi⟩, ha⟩
    refine ⟨c.identity, mem_firstSeen.2 (List.mem_map.2 ⟨c', hc', hi⟩), ?_⟩
    rw [← ha]

/-- A merged creator has all the affiliations of its identity. -/
theorem mem_affiliations_of_merged {f : PublicationFacts} {c : Creator}
    (hc : c ∈ mergeCreators f.creators) {a : OrganizationId} :
    a ∈ c.affiliations ↔ a ∈ f.affiliationsOf c.identity := by
  rw [(mem_mergeCreators.1 hc).2, mem_firstSeen, PublicationFacts.affiliationsOf, List.mem_toFinset]

theorem exists_merged {f : PublicationFacts} {i : CreatorIdentity} {a : OrganizationId}
    (ha : a ∈ f.affiliationsOf i) :
    ∃ c ∈ mergeCreators f.creators, c.identity = i ∧ a ∈ c.affiliations := by
  rw [PublicationFacts.affiliationsOf, List.mem_toFinset] at ha
  obtain ⟨c', hc', ha'⟩ := List.mem_flatMap.1 ha
  obtain ⟨hmem, hi⟩ := List.mem_filter.1 hc'
  exact ⟨⟨i, firstSeen _⟩, mem_mergeCreators.2 ⟨⟨c', hmem, by simpa using hi⟩, rfl⟩, rfl,
    mem_firstSeen.2 ha⟩

theorem nodup_affiliations_of_merged {cs : List Creator} {c : Creator} (hc : c ∈ mergeCreators cs) :
    c.affiliations.Nodup := by
  rw [(mem_mergeCreators.1 hc).2]
  exact nodup_firstSeen _

/-- There is nothing to merge where nobody and nothing is named twice. -/
theorem mergeCreators_of_nodup {cs : List Creator} (hids : (cs.map Creator.identity).Nodup)
    (haffiliations : ∀ c ∈ cs, c.affiliations.Nodup) : mergeCreators cs = cs := by
  have hone : ∀ c ∈ cs, (cs.filter fun c' => c'.identity = c.identity) = [c] := by
    intro c hc
    have hn : (cs.filter fun c' => c'.identity = c.identity).Nodup := (hids.of_map _).filter _
    refine List.perm_singleton.1 ((List.perm_ext_iff_of_nodup hn (List.nodup_singleton c)).2 ?_)
    intro c'
    rw [List.mem_filter, decide_eq_true_eq, List.mem_singleton]
    constructor
    · rintro ⟨hc', hi⟩
      exact List.inj_on_of_nodup_map hids hc' hc hi
    · rintro rfl
      exact ⟨hc, rfl⟩
  rw [mergeCreators, firstSeen_of_nodup hids, List.map_map]
  refine (List.map_congr_left fun c hc => ?_).trans (List.map_id cs)
  rw [Function.comp_apply, hone c hc, List.flatMap_singleton, firstSeen_of_nodup (haffiliations c hc)]
  rfl

theorem mem_affiliations {f : PublicationFacts} {a : OrganizationId} :
    a ∈ f.affiliations ↔ ∃ c ∈ f.creators, a ∈ c.affiliations := by
  rw [PublicationFacts.affiliations, mem_firstSeen, List.mem_flatMap]

/-- Merging names no affiliations that the publication does not name. -/
theorem mem_affiliations_of_mem_merged {f : PublicationFacts} {c : Creator}
    (hc : c ∈ mergeCreators f.creators) {a : OrganizationId} (ha : a ∈ c.affiliations) :
    a ∈ f.affiliations := by
  rw [(mem_mergeCreators.1 hc).2, mem_firstSeen, List.mem_flatMap] at ha
  obtain ⟨c', hc', ha⟩ := ha
  exact mem_affiliations.2 ⟨c', (List.mem_filter.1 hc').1, ha⟩

/-! ### Counting -/

/-- As many as 32 bits count are counted. -/
theorem count32_of_lt {n : Nat} (hn : n < 2 ^ 32) : count32 n = n := Nat.mod_eq_of_lt hn

/-- A creator's affiliations, each together with the creator. -/
def Creator.pairs (c : Creator) : List (CreatorIdentity × OrganizationId) :=
  c.affiliations.map fun a => (c.identity, a)

/-- Every creator is merged into one. -/
theorem nodup_identities (cs : List Creator) : ((mergeCreators cs).map Creator.identity).Nodup := by
  have hmap : (mergeCreators cs).map Creator.identity = firstSeen (cs.map Creator.identity) := by
    rw [mergeCreators, List.map_map]
    exact List.map_id _
  rw [hmap]
  exact nodup_firstSeen _

/-- Merging puts no pair of creator and affiliation down twice. -/
theorem nodup_pairs (cs : List Creator) : ((mergeCreators cs).flatMap Creator.pairs).Nodup := by
  have hids : (mergeCreators cs).Pairwise fun c c' => c.identity ≠ c'.identity :=
    List.pairwise_map.1 (nodup_identities cs)
  refine List.nodup_flatMap.2 ⟨fun c hc => ?_, hids.imp fun {c c'} hne => ?_⟩
  · refine (nodup_affiliations_of_merged hc).map fun a a' h => ?_
    exact (Prod.mk.inj h).2
  · intro x hx hx'
    obtain ⟨a, -, rfl⟩ := List.mem_map.1 hx
    obtain ⟨a', -, h⟩ := List.mem_map.1 hx'
    exact hne (Prod.mk.inj h).1.symm

/-! ### Affiliations and the tops of their trees -/

namespace Creator

variable {c : Creator} {h : Hierarchy} {a i : OrganizationId}

theorem mem_resolved : (a, i) ∈ c.resolved h ↔ a ∈ c.affiliations ∧ h.root? a = some i := by
  rw [resolved, List.mem_filterMap]
  constructor
  · rintro ⟨a', ha', hr⟩
    obtain ⟨r, hr, he⟩ := Option.map_eq_some_iff.1 hr
    cases he
    exact ⟨ha', hr⟩
  · rintro ⟨ha, hr⟩
    exact ⟨a, ha, by rw [hr]; rfl⟩

theorem mem_roots : i ∈ c.roots h ↔ ∃ a ∈ c.affiliations, h.root? a = some i := by
  rw [roots, mem_firstSeen, List.mem_map]
  constructor
  · rintro ⟨⟨a, _⟩, hp, rfl⟩
    exact ⟨a, mem_resolved.1 hp⟩
  · rintro ⟨a, ha⟩
    exact ⟨(a, i), mem_resolved.2 ha, rfl⟩

theorem mem_under : a ∈ c.under h i ↔ a ∈ c.affiliations ∧ h.root? a = some i := by
  rw [under, List.mem_map]
  constructor
  · rintro ⟨⟨a', i'⟩, hp, rfl⟩
    obtain ⟨hres, hi⟩ := List.mem_filter.1 hp
    obtain rfl : i' = i := by simpa using hi
    exact mem_resolved.1 hres
  · rintro ha
    exact ⟨(a, i), List.mem_filter.2 ⟨mem_resolved.2 ha, by simp⟩, rfl⟩

/-- If all affiliations stand in the hierarchy, each of them is resolved. -/
theorem resolved_of_root? {g : OrganizationId → OrganizationId}
    (hroot : ∀ a ∈ c.affiliations, h.root? a = some (g a)) :
    c.resolved h = c.affiliations.map fun a => (a, g a) := by
  rw [resolved, List.filterMap_congr fun a ha => by rw [hroot a ha, Option.map_some],
    ← List.filterMap_eq_map]
  rfl

theorem map_fst_resolved (c : Creator) (h : Hierarchy) :
    (c.resolved h).map (·.1) = c.affiliations.filter fun a => (h.root? a).isSome := by
  rw [resolved, List.map_filterMap, ← List.filterMap_eq_filter]
  congr 1
  funext a
  cases hr : h.root? a <;> simp [Option.guard, hr]

theorem nodup_under (hn : c.affiliations.Nodup) : (c.under h i).Nodup := by
  have hr : ((c.resolved h).map (·.1)).Nodup := by
    rw [map_fst_resolved]
    exact hn.filter _
  exact hr.sublist (List.filter_sublist.map _)

theorem under_ne_nil (hp : (a, i) ∈ c.resolved h) : c.under h i ≠ [] :=
  List.ne_nil_of_mem (mem_under.2 (mem_resolved.1 hp))

end Creator

variable {f : PublicationFacts} {h : Hierarchy} {c : Creator}

/-- There are as many roots as institutions. -/
theorem length_roots (hc : c ∈ mergeCreators f.creators) :
    (c.roots h).length = (f.institutionsOf h c.identity).card := by
  have hset : (c.roots h).toFinset = f.institutionsOf h c.identity := by
    ext i
    rw [List.mem_toFinset, Creator.mem_roots, PublicationFacts.institutionsOf, Finset.mem_biUnion]
    simp only [mem_affiliations_of_merged hc, Option.mem_toFinset, Option.mem_def]
  have hn : (c.roots h).Nodup := nodup_firstSeen _
  rw [← hset, List.toFinset_card_of_nodup hn]

/-- The list of affiliations under an institution has each of them once. -/
theorem length_under (hc : c ∈ mergeCreators f.creators) (i : OrganizationId) :
    (c.under h i).length = (f.affiliationsUnder h c.identity i).card := by
  have hset : (c.under h i).toFinset = f.affiliationsUnder h c.identity i := by
    ext a
    rw [List.mem_toFinset, Creator.mem_under, mem_affiliations_of_merged hc,
      PublicationFacts.affiliationsUnder, Finset.mem_filter]
  rw [← hset, List.toFinset_card_of_nodup (Creator.nodup_under (nodup_affiliations_of_merged hc))]

end PublicationIndicator
