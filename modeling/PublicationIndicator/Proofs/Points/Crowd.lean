import PublicationIndicator.Proofs.Organization.Declaration
import PublicationIndicator.Proofs.Points.Soundness
import PublicationIndicator.Proofs.Text.Digits

/-!
# PublicationIndicator.Proofs.Points.Crowd — more than 32 bits count

Shares are divided by counts of 32 bits, which start again from nothing after `2 ^ 32 - 1`.  A `crowd` are
any number of creators with one affiliation: they earn points unless they are counted as nobody, but the
share count is only what 32 bits make of their number (`score_crowd`).  In a `duet` two creators have any
number of affiliations each, the one with as many institutions, the other with a single one.  If these are
counted as nothing, the creator who is named first decides in which step the calculation fails
(`score_duet`).
-/

namespace PublicationIndicator

/-! ### Names -/

/-- A letter with a number. -/
def nameOf (letter : Char) (n : Nat) : String := String.ofList (letter :: Nat.toDigits 10 n)

theorem nameOf_inj {c d : Char} {m n : Nat} : nameOf c m = nameOf d n ↔ c = d ∧ m = n := by
  rw [nameOf, nameOf, String.ofList_inj, List.cons.injEq]
  refine and_congr_right fun _ => ⟨fun hmn => ?_, fun hmn => congrArg _ hmn⟩
  -- the digits stand for the number
  rw [← Text.digitsValue_toDigits m, hmn, Text.digitsValue_toDigits]

theorem isBlank_nameOf {c : Char} (hc : Text.isBlankChar c = false) (n : Nat) :
    Text.isBlank (nameOf c n) = false := by
  rw [Text.isBlank, nameOf, String.toList_ofList, List.all_cons, hc]
  rfl

/-- The organization of that name. -/
def organizationOf (letter : Char) (n : Nat) : OrganizationId := ⟨nameOf letter n⟩

theorem organizationOf_inj {c d : Char} {m n : Nat} :
    organizationOf c m = organizationOf d n ↔ c = d ∧ m = n := by
  rw [organizationOf, organizationOf, OrganizationId.mk.injEq, nameOf_inj]

/-- The organizations of a letter with the first `n` numbers. -/
def organizationsOf (letter : Char) (n : Nat) : List OrganizationId :=
  (List.range n).map (organizationOf letter)

theorem mem_organizationsOf {c : Char} {n : Nat} {i : OrganizationId} :
    i ∈ organizationsOf c n ↔ ∃ j < n, organizationOf c j = i := by
  rw [organizationsOf, List.mem_map]
  simp only [List.mem_range]

theorem nodup_organizationsOf (c : Char) (n : Nat) : (organizationsOf c n).Nodup := by
  refine List.nodup_range.map fun i j hij => ?_
  exact (organizationOf_inj.1 hij).2

theorem length_organizationsOf (c : Char) (n : Nat) : (organizationsOf c n).length = n := by
  rw [organizationsOf, List.length_map, List.length_range]

/-! ### Articles -/

/-- An article by creators, in a channel of level one. -/
def articleBy (creators : List Creator)
    (fits : creators.length + (creators.flatMap Creator.affiliations).length < 18446744073709551616) :
    PublicationFacts :=
  ⟨⟨"article"⟩, .academicArticle, ⟨"journal", .journal, .levelOne⟩, creators, fits⟩

/-- An article is not refused if its creators are named and one of them has a share. -/
theorem refusal?_articleBy {creators : List Creator}
    {fits : creators.length + (creators.flatMap Creator.affiliations).length < 18446744073709551616}
    {h : Hierarchy} (hnamed : ∀ c ∈ creators, c.identity.isBlank = false)
    (hne : (articleBy creators fits).sharers h ≠ []) : (articleBy creators fits).refusal? h = none := by
  have hblank : (articleBy creators fits).creators.findIdx? (fun c => c.identity.isBlank) = none :=
    List.findIdx?_eq_none_iff.2 hnamed
  rw [PublicationFacts.refusal?, hblank]
  simp only [hne]
  rfl

/-- All creators of an article have a share, if all have an affiliation that stands in the hierarchy and
nobody and nothing is named twice. -/
theorem sharers_articleBy {creators : List Creator}
    {fits : creators.length + (creators.flatMap Creator.affiliations).length < 18446744073709551616}
    {h : Hierarchy} (hids : (creators.map Creator.identity).Nodup)
    (haffiliations : ∀ c ∈ creators, c.affiliations.Nodup) (hroots : ∀ c ∈ creators, c.roots h ≠ []) :
    (articleBy creators fits).sharers h = creators := by
  rw [PublicationFacts.sharers, articleBy, mergeCreators_of_nodup hids haffiliations]
  exact List.filter_eq_self.2 fun c hc => decide_eq_true (hroots c hc)

/-! ### A crowd -/

/-- An article by `n` creators with the same affiliation. -/
def crowd (n : Nat) (hn : 2 * n < 18446744073709551616) : PublicationFacts :=
  articleBy ((List.range n).map fun i => ⟨.verified (nameOf 'x' i), [organizationOf 'a' 0]⟩) (by
    simp only [List.length_map, List.length_range, List.length_flatMap, List.map_map, Function.comp_def,
      List.length_singleton, List.map_const', List.sum_replicate_nat]
    omega)

section

variable {n : Nat} {hn : 2 * n < 18446744073709551616} {h : Hierarchy}

theorem mem_pairs_crowd {x : CreatorIdentity × OrganizationId} : x ∈ (crowd n hn).pairs ↔
    ∃ i < n, (.verified (nameOf 'x' i), organizationOf 'a' 0) = x := by
  simp [PublicationFacts.pairs, crowd, articleBy, Creator.pairs]

variable (ha : h.contains (organizationOf 'a' 0) = true)
include ha

/-- All of a crowd have a share. -/
theorem card_sharing_crowd : ((crowd n hn).sharing h).card = n := by
  have hset : (crowd n hn).sharing h =
      (Finset.range n).image fun i => CreatorIdentity.verified (nameOf 'x' i) := by
    ext c
    simp only [PublicationFacts.sharing, PublicationFacts.resolvable, Finset.mem_image, Finset.mem_filter,
      mem_pairs_crowd, Finset.mem_range]
    constructor
    · rintro ⟨_, ⟨⟨i, hi, rfl⟩, -⟩, rfl⟩
      exact ⟨i, hi, rfl⟩
    · rintro ⟨i, hi, rfl⟩
      exact ⟨_, ⟨⟨i, hi, rfl⟩, ha⟩, rfl⟩
  rw [hset, Finset.card_image_of_injective, Finset.card_range]
  intro i j hij
  exact (nameOf_inj.1 (CreatorIdentity.verified.inj hij)).2

theorem refusal?_crowd (hpos : 0 < n) : (crowd n hn).refusal? h = none := by
  refine refusal?_articleBy (List.forall_mem_map.2 fun i _ => isBlank_nameOf (by decide) i) ?_
  refine List.ne_nil_of_length_pos ?_
  change 0 < ((crowd n hn).sharers h).length
  rw [PublicationFacts.length_sharers, card_sharing_crowd ha]
  exact hpos

/-- With one affiliation each, only the creators themselves can be too many. -/
theorem counted_crowd (hcount : 0 < count32 n) : (crowd n hn).Counted h := by
  -- a creator's affiliations are all the same
  have hone : ∀ c ∈ (crowd n hn).sharers h, (c.resolved h).length ≤ 1 := by
    intro c hc
    have hmerged := (PublicationFacts.mem_sharers.1 hc).1
    have hsub : c.affiliations ⊆ [organizationOf 'a' 0] := by
      intro a hmem
      obtain ⟨i, -, hi⟩ := mem_pairs_crowd.1 ((PublicationFacts.mem_pairs_of_merged hmerged).2 hmem)
      exact List.mem_singleton.2 (Prod.mk.inj hi).2.symm
    have hle := List.length_filterMap_le (fun a => (h.root? a).map fun r => (a, r)) c.affiliations
    exact hle.trans (List.subperm_of_subset (nodup_affiliations_of_merged hmerged) hsub).length_le
  have hsmall : ∀ m, 0 < m → m ≤ 1 → 0 < count32 m := by
    intro m hpos hle
    obtain rfl : m = 1 := by omega
    decide
  refine ⟨?_, fun c hc => hsmall _ ?_ ?_, fun c hc i hi => hsmall _ ?_ ?_⟩
  · rwa [PublicationFacts.length_sharers, card_sharing_crowd ha]
  · exact List.length_pos_of_ne_nil (PublicationFacts.mem_sharers.1 hc).2
  · exact ((length_firstSeen_le _).trans_eq (List.length_map _)).trans (hone c hc)
  · obtain ⟨a, ha⟩ := Creator.mem_roots.1 hi
    exact List.length_pos_of_ne_nil (Creator.under_ne_nil (Creator.mem_resolved.2 ha))
  · exact ((List.length_map _).trans_le (List.length_filter_le _ _)).trans (hone c hc)

/-- A crowd earns points, with as many shares as are counted, unless none are. -/
theorem score_crowd (hpos : 0 < n) :
    (n % 2 ^ 32 = 0 → score (crowd n hn) h = .error (.defect (.overflow .creatorShare))) ∧
    (n % 2 ^ 32 ≠ 0 → ∃ e, score (crowd n hn) h = .ok e ∧
      e.calculation.creatorShareCount = n % 2 ^ 32) := by
  have hlen : ((crowd n hn).sharers h).length = n := by
    rw [PublicationFacts.length_sharers, card_sharing_crowd ha]
  have hnone : (crowd n hn).refusal? h = none := refusal?_crowd ha hpos
  refine ⟨fun hzero => score_eq_error_of_count32 hnone ?_, fun hcount => ?_⟩
  · rw [hlen]
    exact hzero
  · obtain ⟨e, he, -⟩ := exists_score hnone (counted_crowd ha (Nat.pos_of_ne_zero hcount))
    obtain ⟨base, -, -, -, hresult, -, -⟩ := exists_of_score he
    have hshares := creatorShareCount_of_shareOut hresult
    rw [hlen] at hshares
    exact ⟨e, he, hshares⟩

end

/-! ### A duet -/

/-- Institutions without parts, and one that has as many parts. -/
def grounds (n : Nat) : List Organization :=
  (organizationsOf 'a' n).map .blank ++ [⟨organizationOf 'c' 0, none, organizationsOf 'b' n⟩]

/-- A creator who is affiliated with all organizations of a letter. -/
def creatorOf (letter : Char) (n : Nat) : Creator :=
  ⟨.verified (nameOf letter 0), organizationsOf letter n⟩

/-- An article by two such creators. -/
def duet (first second : Char) (n : Nat) (hn : 2 * n + 2 < 18446744073709551616) : PublicationFacts :=
  articleBy [creatorOf first n, creatorOf second n] (by
    simp only [List.flatMap_cons, List.flatMap_nil, List.append_nil, List.length_append, creatorOf,
      length_organizationsOf, List.length_cons, List.length_nil]
    omega)

section

variable {c d : Char} {n : Nat} {hn : 2 * n + 2 < 18446744073709551616} {h : Hierarchy}

@[simp] theorem instanceType_duet : (duet c d n hn).instanceType = .academicArticle := rfl

@[simp] theorem channel_duet : (duet c d n hn).channel = ⟨"journal", .journal, .levelOne⟩ := rfl

theorem named_duet (hblank : Text.isBlankChar c = false ∧ Text.isBlankChar d = false) :
    ∀ x ∈ (duet c d n hn).creators, x.identity.isBlank = false := by
  simpa [duet, articleBy, creatorOf, CreatorIdentity.isBlank, CreatorIdentity.text] using
    ⟨isBlank_nameOf hblank.1 0, isBlank_nameOf hblank.2 0⟩

/-- Who is named first makes no difference to the pairs of a creator and an affiliation. -/
theorem pairs_duet_comm : (duet c d n hn).pairs = (duet d c n hn).pairs := by
  ext x
  simp [PublicationFacts.pairs, duet, articleBy, or_comm]

/-- If the creator who is named first gets no credits, the two earn nothing. -/
theorem score_duet_of_credits (hcd : c ≠ d)
    (hblank : Text.isBlankChar c = false ∧ Text.isBlankChar d = false)
    (hc : (creatorOf c n).roots h ≠ []) (hd : (creatorOf d n).roots h ≠ []) {err : PointError}
    (herr : ∀ share : Decimal, 0 ≤ share.toRat → share.toRat ≤ 11 →
      (creatorOf c n).credits h share = .error err) : score (duet c d n hn) h = .error err := by
  have hsharers : (duet c d n hn).sharers h = [creatorOf c n, creatorOf d n] := by
    refine sharers_articleBy ?_ ?_ ?_
    · simpa [creatorOf, nameOf_inj] using hcd
    · simp [creatorOf, nodup_organizationsOf]
    · simp [hc, hd]
  have hnone : (duet c d n hn).refusal? h = none := by
    have hnamed : ∀ x ∈ (duet c d n hn).creators, x.identity.isBlank = false := named_duet hblank
    exact refusal?_articleBy hnamed (hsharers.trans_ne (List.cons_ne_nil _ _))
  have hcount : 0 < count32 ((duet c d n hn).sharers h).length := by
    rw [hsharers]
    exact Nat.two_pos
  exact score_eq_error_of_credits hnone hcount hsharers herr

end

section

variable {n : Nat} {c p : OrganizationId} {h : Hierarchy}

theorem declares_grounds :
    Declares (grounds n) c p ↔ p = organizationOf 'c' 0 ∧ c ∈ organizationsOf 'b' n := by
  constructor
  · rintro ⟨o, ho, hdeclared⟩
    rcases List.mem_append.1 ho with ho | ho
    · obtain ⟨i, -, rfl⟩ := List.mem_map.1 ho
      rcases hdeclared with ⟨-, hp⟩ | ⟨-, hc⟩
      · cases hp
      · cases hc
    · obtain rfl := List.mem_singleton.1 ho
      rcases hdeclared with ⟨-, hp⟩ | ⟨hp, hc⟩
      · cases hp
      · exact ⟨hp.symm, hc⟩
  · rintro ⟨rfl, hc⟩
    exact ⟨_, List.mem_append_right _ (List.mem_singleton_self _), .inr ⟨rfl, hc⟩⟩

/-- What is a part of something has no parts. -/
theorem not_declares_grounds (hc : Declares (grounds n) c p) {q : OrganizationId} :
    ¬ Declares (grounds n) p q := by
  rw [declares_grounds] at hc ⊢
  rintro ⟨-, hp⟩
  obtain ⟨i, -, hi⟩ := mem_organizationsOf.1 (hc.1 ▸ hp)
  exact absurd (organizationOf_inj.1 hi).1 (by decide)

theorem exists_grounds (n : Nat) : ∃ h, Hierarchy.ofOrganizations (grounds n) = .ok h := by
  refine exists_ofOrganizations (fun c p q hp hq => ?_) fun i hi => ?_
  · rw [(declares_grounds.1 hp).1, (declares_grounds.1 hq).1]
  · obtain ⟨j, hij, hji⟩ := Relation.TransGen.head'_iff.1 hi
    rcases Relation.ReflTransGen.cases_head hji with rfl | ⟨k, hjk, -⟩
    · exact not_declares_grounds hij hij
    · exact not_declares_grounds hij hjk

variable (hos : Hierarchy.ofOrganizations (grounds n) = .ok h)
include hos

theorem root?_grounds {i r : OrganizationId} (hi : Mentions (grounds n) i)
    (hreach : Relation.ReflTransGen (Declares (grounds n)) i r) (htop : ∀ p, ¬ Declares (grounds n) r p) :
    h.root? i = some r := by
  have htakes := Hierarchy.takes_ofOrganizations hos
  have hpartOf := partOf_eq_declares htakes
  rw [← hpartOf] at hreach htop
  exact Hierarchy.root?_eq_some_iff_reaches.2
    ⟨(mem_ids_iff_mentions htakes).2 hi, hreach, Option.eq_none_iff_forall_not_mem.2 htop⟩

/-- The organizations without parts stand on their own. -/
theorem resolved_creatorOf_a :
    (creatorOf 'a' n).resolved h = (organizationsOf 'a' n).map fun a => (a, a) := by
  refine Creator.resolved_of_root? fun a ha => ?_
  refine root?_grounds hos ?_ .refl fun p hp => ?_
  · exact ⟨.blank a, List.mem_append_left _ (List.mem_map_of_mem ha), .inl rfl⟩
  · obtain ⟨i, -, rfl⟩ := mem_organizationsOf.1 ha
    obtain ⟨j, -, hj⟩ := mem_organizationsOf.1 (declares_grounds.1 hp).2
    exact absurd (organizationOf_inj.1 hj).1 (by decide)

/-- The parts lead to the institution that has them. -/
theorem resolved_creatorOf_b : (creatorOf 'b' n).resolved h =
    (organizationsOf 'b' n).map fun a => (a, organizationOf 'c' 0) := by
  refine Creator.resolved_of_root? fun a ha => ?_
  have hpart : Declares (grounds n) a (organizationOf 'c' 0) := declares_grounds.2 ⟨rfl, ha⟩
  refine root?_grounds hos ?_ (.single hpart) fun p => not_declares_grounds hpart
  exact ⟨_, List.mem_append_right _ (List.mem_singleton_self _), .inr (.inr ha)⟩

theorem length_roots_creatorOf_a : ((creatorOf 'a' n).roots h).length = n := by
  rw [Creator.roots, resolved_creatorOf_a hos, List.map_map]
  change (firstSeen ((organizationsOf 'a' n).map id)).length = n
  rw [List.map_id, firstSeen_of_nodup (nodup_organizationsOf 'a' n), length_organizationsOf]

theorem mem_roots_creatorOf_b {i : OrganizationId} (hi : i ∈ (creatorOf 'b' n).roots h) :
    i = organizationOf 'c' 0 := by
  rw [Creator.roots, mem_firstSeen, resolved_creatorOf_b hos, List.map_map] at hi
  obtain ⟨a, -, rfl⟩ := List.mem_map.1 hi
  rfl

theorem length_under_creatorOf_b :
    ((creatorOf 'b' n).under h (organizationOf 'c' 0)).length = n := by
  rw [Creator.under, resolved_creatorOf_b hos, List.length_map, List.filter_eq_self.2,
    List.length_map, length_organizationsOf]
  rintro _ hp
  obtain ⟨a, -, rfl⟩ := List.mem_map.1 hp
  exact decide_eq_true rfl

theorem length_roots_creatorOf_b (hpos : 0 < n) : ((creatorOf 'b' n).roots h).length = 1 := by
  have hle : ((creatorOf 'b' n).roots h).length ≤ [organizationOf 'c' 0].length :=
    (List.subperm_of_subset (nodup_firstSeen _) fun i hi =>
      List.mem_singleton.2 (mem_roots_creatorOf_b hos hi)).length_le
  have hne : (creatorOf 'b' n).roots h ≠ [] := by
    refine List.ne_nil_of_mem (a := organizationOf 'c' 0) ?_
    rw [Creator.roots, mem_firstSeen, resolved_creatorOf_b hos]
    exact List.mem_map.2 ⟨(organizationOf 'b' 0, _), List.mem_map_of_mem
      (mem_organizationsOf.2 ⟨0, hpos, rfl⟩), rfl⟩
  have hlen := List.length_pos_of_ne_nil hne
  exact Nat.le_antisymm hle hlen

/-- Whoever is named first of two who have too many affiliations decides about the error: the one with
too many institutions, or the one with too many affiliations under an institution. -/
theorem score_duet {hn : 2 * n + 2 < 18446744073709551616} (hpos : 0 < n) (hzero : n % 2 ^ 32 = 0) :
    score (duet 'a' 'b' n hn) h = .error (.defect (.overflow .institutionShare)) ∧
    score (duet 'b' 'a' n hn) h = .error (.defect (.overflow .affiliationShare)) := by
  have hlena := length_roots_creatorOf_a hos
  have hlenb := length_roots_creatorOf_b hos hpos
  have ha : (creatorOf 'a' n).roots h ≠ [] := List.ne_nil_of_length_pos (hpos.trans_eq hlena.symm)
  have hb : (creatorOf 'b' n).roots h ≠ [] :=
    List.ne_nil_of_length_pos (Nat.one_pos.trans_eq hlenb.symm)
  refine ⟨score_duet_of_credits (by decide) (by decide) ha hb fun share _ _ => ?_,
    score_duet_of_credits (by decide) (by decide) hb ha fun share h0 hle => ?_⟩
  · refine credits_eq_error_of_roots ha ?_
    rw [hlena]
    exact hzero
  · refine credits_eq_error_of_under hb h0 hle ?_ fun i hi => ?_
    · rw [hlenb]
      decide
    · rw [mem_roots_creatorOf_b hos hi, length_under_creatorOf_b hos]
      exact hzero

end

end PublicationIndicator
