import Mathlib.Algebra.BigOperators.Group.List.Lemmas
import Mathlib.Algebra.Order.BigOperators.Group.List
import Mathlib.Algebra.Order.Field.Rat
import Mathlib.Tactic.FieldSimp
import PublicationIndicator.Proofs.Organization.Lineage
import PublicationIndicator.Proofs.Points.Creators

/-!
# PublicationIndicator.Proofs.Points.Stakes — what points are shared out for

A publication names pairs of a creator and an affiliation (`PublicationFacts.pairs`).  A pair whose
affiliation stands in the hierarchy is a stake in the institution at the top, and no pair is a stake
twice (`PublicationFacts.stakes`, `mem_stakes`, `nodup_stakes`).  `PublicationFacts.due` is what is due
for a stake if nothing is rounded, by the counts as they are kept.  Where 32 bits count the pairs in the
hierarchy, these are the true counts, and all that is due comes to what there is to be shared (`sum_due`).
-/

namespace PublicationIndicator

/-! ### Sums over groups -/

/-- A list is summed up group by group. -/
theorem sum_groups {α β : Type} [DecidableEq β] (k : α → β) (g : α → ℚ) {ids : List β}
    (hn : ids.Nodup) {l : List α} (hids : ∀ x ∈ l, k x ∈ ids) :
    (ids.map fun i => ((l.filter fun x => k x = i).map g).sum).sum = (l.map g).sum := by
  induction l with
  | nil => simp
  | cons x l ih =>
    obtain ⟨hx, hl⟩ := List.forall_mem_cons.1 hids
    -- the first element belongs to one of the groups and to no other
    have hsplit : (ids.map fun i => (((x :: l).filter fun x => k x = i).map g).sum) =
        ids.map fun i => (if k x = i then g x else 0) + ((l.filter fun x => k x = i).map g).sum := by
      refine List.map_congr_left fun i _ => ?_
      by_cases hi : k x = i <;> simp [hi]
    have hone : (ids.map fun i => if k x = i then g x else 0).sum = g x := by
      rw [List.sum_map_eq_nsmul_single (k x) _ fun i hi _ => if_neg (Ne.symm hi),
        List.count_eq_one_of_mem hn hx, if_pos rfl, one_nsmul]
    rw [hsplit, List.sum_map_add, hone, ih hl, List.map_cons, List.sum_cons]

/-! ### Pairs and stakes -/

/-- A creator's affiliations in the hierarchy, each with the creator and with the top it leads to. -/
def Creator.stakes (c : Creator) (h : Hierarchy) :
    List (CreatorIdentity × OrganizationId × OrganizationId) :=
  (c.resolved h).map fun p => (c.identity, p)

namespace PublicationFacts

/-- The pairs of a creator and an affiliation that a publication names. -/
def pairs (f : PublicationFacts) : Finset (CreatorIdentity × OrganizationId) :=
  (f.creators.flatMap Creator.pairs).toFinset

/-- The pairs whose affiliation stands in the hierarchy. -/
def resolvable (f : PublicationFacts) (h : Hierarchy) : Finset (CreatorIdentity × OrganizationId) :=
  f.pairs.filter fun x => h.contains x.2 = true

/-- The creators with an affiliation in the hierarchy. -/
def sharing (f : PublicationFacts) (h : Hierarchy) : Finset CreatorIdentity :=
  (f.resolvable h).image Prod.fst

/-- The institutions that some affiliation leads to. -/
def tops (f : PublicationFacts) (h : Hierarchy) : Finset OrganizationId :=
  f.pairs.biUnion fun x => (h.root? x.2).toFinset

/-- What points are shared out for: creator, affiliation, and the institution that it leads to. -/
def stakes (f : PublicationFacts) (h : Hierarchy) :
    List (CreatorIdentity × OrganizationId × OrganizationId) :=
  (f.sharers h).flatMap fun c => c.stakes h

/-- What is due to a creator for one affiliation with an institution, of a pool of points, by the counts
as they are kept. -/
def due (f : PublicationFacts) (h : Hierarchy) (pool : ℚ) (c : CreatorIdentity)
    (i : OrganizationId) : ℚ :=
  pool / (count32 (f.sharing h).card * count32 (f.institutionsOf h c).card *
    count32 (f.affiliationsUnder h c i).card : ℕ)

variable {f : PublicationFacts} {h : Hierarchy} {c : CreatorIdentity} {a i : OrganizationId}

theorem mem_pairs : (c, a) ∈ f.pairs ↔ a ∈ f.affiliationsOf c := by
  rw [pairs, affiliationsOf, List.mem_toFinset, List.mem_toFinset, List.mem_flatMap, List.mem_flatMap]
  simp only [Creator.pairs, List.mem_map, List.mem_filter, Prod.mk.injEq, decide_eq_true_eq]
  constructor
  · rintro ⟨x, hx, b, hb, rfl, rfl⟩
    exact ⟨x, ⟨hx, rfl⟩, hb⟩
  · rintro ⟨x, ⟨hx, rfl⟩, ha⟩
    exact ⟨x, hx, a, ha, rfl, rfl⟩

theorem mem_pairs_of_merged {x : Creator} (hx : x ∈ mergeCreators f.creators) :
    (x.identity, a) ∈ f.pairs ↔ a ∈ x.affiliations := by
  rw [mem_pairs, mem_affiliations_of_merged hx]

theorem mem_sharers {x : Creator} :
    x ∈ f.sharers h ↔ x ∈ mergeCreators f.creators ∧ x.roots h ≠ [] := by
  rw [sharers, List.mem_filter, decide_eq_true_eq]

/-- The pairs are those of the creators as they are merged. -/
theorem mem_flatMap_pairs_merged {x : CreatorIdentity × OrganizationId} :
    x ∈ (mergeCreators f.creators).flatMap Creator.pairs ↔ x ∈ f.pairs := by
  obtain ⟨c, a⟩ := x
  rw [List.mem_flatMap]
  constructor
  · rintro ⟨m, hm, hx⟩
    obtain ⟨b, hb, he⟩ := List.mem_map.1 hx
    cases he
    exact (mem_pairs_of_merged hm).2 hb
  · intro hx
    obtain ⟨m, hm, rfl, ha⟩ := exists_merged (mem_pairs.1 hx)
    exact ⟨m, hm, List.mem_map_of_mem ha⟩

theorem mem_stakes_iff_exists_sharer :
    (c, a, i) ∈ f.stakes h ↔ ∃ x ∈ f.sharers h, x.identity = c ∧ (a, i) ∈ x.resolved h := by
  rw [stakes, List.mem_flatMap]
  constructor
  · rintro ⟨x, hx, hs⟩
    obtain ⟨p, hp, he⟩ := List.mem_map.1 hs
    cases he
    exact ⟨x, hx, rfl, hp⟩
  · rintro ⟨x, hx, rfl, hp⟩
    exact ⟨x, hx, List.mem_map.2 ⟨(a, i), hp, rfl⟩⟩

/-- A stake is a pair whose affiliation leads to the institution. -/
theorem mem_stakes : (c, a, i) ∈ f.stakes h ↔ (c, a) ∈ f.pairs ∧ h.root? a = some i := by
  rw [mem_stakes_iff_exists_sharer]
  constructor
  · rintro ⟨x, hx, rfl, hp⟩
    obtain ⟨ha, hroot⟩ := Creator.mem_resolved.1 hp
    exact ⟨(mem_pairs_of_merged (mem_sharers.1 hx).1).2 ha, hroot⟩
  · rintro ⟨hpair, hroot⟩
    obtain ⟨x, hx, rfl, ha⟩ := exists_merged (mem_pairs.1 hpair)
    have hne : x.roots h ≠ [] := List.ne_nil_of_mem (Creator.mem_roots.2 ⟨a, ha, hroot⟩)
    exact ⟨x, mem_sharers.2 ⟨hx, hne⟩, rfl, Creator.mem_resolved.2 ⟨ha, hroot⟩⟩

theorem mem_tops : i ∈ f.tops h ↔ ∃ c a, (c, a, i) ∈ f.stakes h := by
  simp only [tops, Finset.mem_biUnion, Option.mem_toFinset, Option.mem_def, Prod.exists, mem_stakes]

/-- No pair is a stake twice. -/
theorem nodup_stakes (f : PublicationFacts) (h : Hierarchy) :
    ((f.stakes h).map fun s => (s.1, s.2.1)).Nodup := by
  have hmap : (f.stakes h).map (fun s => (s.1, s.2.1)) =
      ((f.sharers h).flatMap Creator.pairs).filter fun x => (h.root? x.2).isSome := by
    rw [stakes, List.map_flatMap, List.filter_flatMap]
    refine List.flatMap_congr fun x _ => ?_
    rw [Creator.pairs, List.filter_map, Function.comp_def, ← Creator.map_fst_resolved, Creator.stakes,
      List.map_map, List.map_map]
    rfl
  have hsub : (f.sharers h).Sublist (mergeCreators f.creators) := List.filter_sublist
  rw [hmap]
  exact ((nodup_pairs f.creators).sublist (hsub.flatMap Creator.pairs)).filter _

theorem mem_resolvable : (c, a) ∈ f.resolvable h ↔ ∃ i, (c, a, i) ∈ f.stakes h := by
  simp only [resolvable, Finset.mem_filter, Hierarchy.contains_iff_exists_root?, mem_stakes,
    exists_and_left]

/-- There are as many stakes as pairs whose affiliation stands in the hierarchy. -/
theorem length_stakes (f : PublicationFacts) (h : Hierarchy) :
    (f.stakes h).length = (f.resolvable h).card := by
  have hset : ((f.stakes h).map fun s => (s.1, s.2.1)).toFinset = f.resolvable h := by
    ext ⟨c, a⟩
    rw [List.mem_toFinset, mem_resolvable, List.mem_map]
    constructor
    · rintro ⟨⟨c', a', i⟩, hs, he⟩
      cases he
      exact ⟨i, hs⟩
    · rintro ⟨i, hs⟩
      exact ⟨(c, a, i), hs, rfl⟩
  rw [← hset, List.toFinset_card_of_nodup (nodup_stakes f h), List.length_map]

/-- There are as many sharers as creators with an affiliation in the hierarchy. -/
theorem length_sharers (f : PublicationFacts) (h : Hierarchy) :
    (f.sharers h).length = (f.sharing h).card := by
  have hset : ((f.sharers h).map Creator.identity).toFinset = f.sharing h := by
    ext c
    rw [List.mem_toFinset, List.mem_map, sharing, Finset.mem_image]
    constructor
    · rintro ⟨x, hx, rfl⟩
      obtain ⟨-, hne⟩ := mem_sharers.1 hx
      obtain ⟨i, hi⟩ := List.exists_mem_of_ne_nil _ hne
      obtain ⟨a, ha⟩ := Creator.mem_roots.1 hi
      have hstake := mem_stakes_iff_exists_sharer.2 ⟨x, hx, rfl, Creator.mem_resolved.2 ha⟩
      exact ⟨(x.identity, a), mem_resolvable.2 ⟨i, hstake⟩, rfl⟩
    · rintro ⟨⟨c, a⟩, hx, rfl⟩
      obtain ⟨i, hs⟩ := mem_resolvable.1 hx
      obtain ⟨y, hy, hc, -⟩ := mem_stakes_iff_exists_sharer.1 hs
      exact ⟨y, hy, hc⟩
  have hn : ((f.sharers h).map Creator.identity).Nodup :=
    (nodup_identities f.creators).sublist (List.filter_sublist.map _)
  rw [← hset, List.toFinset_card_of_nodup hn, List.length_map]

/-! ### How many there are -/

theorem card_resolvable_le (f : PublicationFacts) (h : Hierarchy) :
    (f.resolvable h).card ≤ (f.creators.flatMap Creator.affiliations).length := by
  have hpairs : f.pairs.card ≤ (f.creators.flatMap Creator.pairs).length := List.toFinset_card_le _
  have hlen : (f.creators.flatMap Creator.pairs).length =
      (f.creators.flatMap Creator.affiliations).length := by
    simp [List.length_flatMap, Creator.pairs]
  exact (Finset.card_filter_le _ _).trans (hpairs.trans_eq hlen)

theorem length_sharers_le (f : PublicationFacts) (h : Hierarchy) :
    (f.sharers h).length ≤ (f.resolvable h).card := by
  rw [length_sharers]
  exact Finset.card_image_le

/-- No sharer has more affiliations than there are stakes. -/
theorem length_resolved_le {x : Creator} (hx : x ∈ f.sharers h) :
    (x.resolved h).length ≤ (f.resolvable h).card := by
  rw [← length_stakes, stakes, List.length_flatMap]
  exact List.single_le_sum (by simp) _ (List.mem_map.2 ⟨x, hx, List.length_map _⟩)

theorem length_roots_le {x : Creator} (hx : x ∈ f.sharers h) :
    (x.roots h).length ≤ (f.resolvable h).card := by
  have hle : (x.roots h).length ≤ (x.resolved h).length :=
    (length_firstSeen_le _).trans_eq (List.length_map _)
  exact hle.trans (length_resolved_le hx)

theorem length_under_le {x : Creator} (hx : x ∈ f.sharers h) (i : OrganizationId) :
    (x.under h i).length ≤ (f.resolvable h).card := by
  have hle : (x.under h i).length ≤ (x.resolved h).length :=
    (List.length_map _).trans_le (List.length_filter_le _ _)
  exact hle.trans (length_resolved_le hx)

/-! ### What is due -/

section

variable {x : Creator} (hx : x ∈ f.sharers h) (hcount : (f.resolvable h).card < 2 ^ 32) (pool : ℚ)
include hx hcount

/-- What is due to a creator with one institution is an equal part of what is due to the creator. -/
theorem sum_due_under (hi : i ∈ x.roots h) :
    (((x.resolved h).filter fun p => p.2 = i).map fun p => f.due h pool x.identity p.2).sum =
      pool / (f.sharing h).card / (x.roots h).length := by
  have hmerged := (mem_sharers.1 hx).1
  obtain ⟨a, ha⟩ := Creator.mem_roots.1 hi
  have hm : ((x.under h i).length : ℚ) ≠ 0 := by
    have hpos := List.length_pos_of_ne_nil (Creator.under_ne_nil (Creator.mem_resolved.2 ha))
    exact_mod_cast hpos.ne'
  have hconst : ((x.resolved h).filter fun p => p.2 = i).map (fun p => f.due h pool x.identity p.2) =
      ((x.resolved h).filter fun p => p.2 = i).map fun _ => f.due h pool x.identity i := by
    refine List.map_congr_left fun p hp => ?_
    have hpi : p.2 = i := by simpa using (List.mem_filter.1 hp).2
    rw [hpi]
  have hlen : ((x.resolved h).filter fun p => p.2 = i).length = (x.under h i).length := by
    rw [Creator.under, List.length_map]
  rw [hconst, List.map_const', List.sum_replicate, nsmul_eq_mul, hlen, due, ← length_sharers,
    ← length_roots hmerged, ← length_under hmerged,
    count32_of_lt ((length_sharers_le f h).trans_lt hcount),
    count32_of_lt ((length_roots_le hx).trans_lt hcount),
    count32_of_lt ((length_under_le hx i).trans_lt hcount)]
  push_cast
  field_simp

/-- What is due to one creator is an equal part. -/
theorem sum_due_stakes :
    ((x.stakes h).map fun s => f.due h pool s.1 s.2.2).sum = pool / (f.sharing h).card := by
  have hn : (x.roots h).Nodup := nodup_firstSeen _
  have hk : ((x.roots h).length : ℚ) ≠ 0 := by
    have hpos := List.length_pos_of_ne_nil (mem_sharers.1 hx).2
    exact_mod_cast hpos.ne'
  have hroots : ∀ p ∈ x.resolved h, p.2 ∈ x.roots h := by
    rintro ⟨a, i⟩ hp
    exact Creator.mem_roots.2 ⟨a, Creator.mem_resolved.1 hp⟩
  rw [Creator.stakes, List.map_map, Function.comp_def]
  dsimp only
  rw [← sum_groups (fun p => p.2) _ hn hroots,
    List.map_congr_left fun i hi => sum_due_under hx hcount pool hi, List.map_const',
    List.sum_replicate, nsmul_eq_mul]
  field_simp

end

/-- All that is due comes to the pool, if 32 bits count the pairs in the hierarchy. -/
theorem sum_due (hcount : (f.resolvable h).card < 2 ^ 32) (hne : f.sharers h ≠ []) (pool : ℚ) :
    ((f.stakes h).map fun s => f.due h pool s.1 s.2.2).sum = pool := by
  have hn : ((f.sharers h).length : ℚ) ≠ 0 := by
    have hpos := List.length_pos_of_ne_nil hne
    exact_mod_cast hpos.ne'
  have hparts : (f.sharers h).map (fun x => ((x.stakes h).map
      fun s => f.due h pool s.1 s.2.2).sum) =
      (f.sharers h).map fun _ => pool / (f.sharing h).card :=
    List.map_congr_left fun x hx => sum_due_stakes hx hcount pool
  rw [stakes, List.map_flatMap, List.flatMap_def, List.sum_flatten, List.map_map, Function.comp_def,
    hparts, List.map_const', List.sum_replicate, nsmul_eq_mul, ← length_sharers]
  field_simp

end PublicationFacts

end PublicationIndicator
