import PublicationIndicator.Proofs.Points.Accounting
import PublicationIndicator.Proofs.Points.Agreement

/-!
# PublicationIndicator.Proofs.Points.Rearrangement — facts written down in another way

Creators may be listed in another order, more than once, or in several entries, and so may their
affiliations.  All that the points depend on is who is affiliated where: facts that name the same pairs
have the same stakes in another order (`PublicationFacts.stakes_perm`), and each stake earns the same
credit (`PublicationFacts.credit_congr`).  So they fail together, or earn points that are alike
(`score_rearranged`).
-/

namespace PublicationIndicator

open Decimal

namespace PublicationFacts

/-! ### What depends on pairs only -/

section

variable {f g : PublicationFacts} (hpairs : f.pairs = g.pairs) (h : Hierarchy)
include hpairs

theorem affiliationsOf_congr (c : CreatorIdentity) : f.affiliationsOf c = g.affiliationsOf c := by
  ext a
  rw [← mem_pairs, ← mem_pairs, hpairs]

theorem institutionsOf_congr (c : CreatorIdentity) : f.institutionsOf h c = g.institutionsOf h c := by
  rw [institutionsOf, affiliationsOf_congr hpairs, institutionsOf]

theorem affiliationsUnder_congr (c : CreatorIdentity) (i : OrganizationId) :
    f.affiliationsUnder h c i = g.affiliationsUnder h c i := by
  rw [affiliationsUnder, affiliationsOf_congr hpairs, affiliationsUnder]

theorem length_sharers_congr : (f.sharers h).length = (g.sharers h).length := by
  rw [length_sharers, length_sharers, sharing, sharing, resolvable, resolvable, hpairs]

theorem institutionsOf_sharers_congr :
    PublicationIndicator.institutionsOf h (f.sharers h) =
      PublicationIndicator.institutionsOf h (g.sharers h) := by
  have hsets : SortedSet.ofList ((f.sharers h).flatMap fun c => c.roots h) =
      SortedSet.ofList ((g.sharers h).flatMap fun c => c.roots h) := by
    refine SortedSet.ext_mem fun i => ?_
    change i ∈ PublicationIndicator.institutionsOf h (f.sharers h) ↔
      i ∈ PublicationIndicator.institutionsOf h (g.sharers h)
    rw [mem_institutionsOf_sharers, mem_institutionsOf_sharers, tops, tops, hpairs]
  exact congrArg SortedSet.toList hsets

/-- The same pairs are the same stakes, in some order. -/
theorem stakes_perm : (f.stakes h).Perm (g.stakes h) := by
  have hf : (f.stakes h).Nodup := (nodup_stakes f h).of_map _
  have hg : (g.stakes h).Nodup := (nodup_stakes g h).of_map _
  rw [List.perm_ext_iff_of_nodup hf hg]
  rintro ⟨c, a, i⟩
  rw [mem_stakes, mem_stakes, hpairs]

end

/-! ### What is left out -/

theorem mem_unresolved_iff {f : PublicationFacts} {h : Hierarchy} {x : ExcludedAffiliation} :
    x ∈ f.unresolved h ↔ (x.pair ∈ f.pairs ∧ h.contains x.affiliation = false) ∧
      x.reason = .notInSnapshot := by
  constructor
  · intro hx
    obtain ⟨-, -, hreason⟩ := mem_unresolved hx
    exact ⟨mem_map_pair_unresolved.1 (List.mem_map_of_mem hx), hreason⟩
  · rintro ⟨hpair, hx⟩
    obtain ⟨y, hy, hyx⟩ := List.mem_map.1 (mem_map_pair_unresolved.2 hpair)
    obtain ⟨-, -, hreason⟩ := mem_unresolved hy
    obtain ⟨c, a, reason⟩ := x
    obtain ⟨rfl, rfl⟩ := Prod.mk.inj hyx
    obtain rfl : reason = .notInSnapshot := hx
    rw [← hreason]
    exact hy

theorem nodup_unresolved (f : PublicationFacts) (h : Hierarchy) : (f.unresolved h).Nodup := by
  have hn : ((f.unresolved h).map ExcludedAffiliation.pair).Nodup := by
    rw [map_pair_unresolved]
    exact (nodup_pairs f.creators).filter _
  exact hn.of_map _

theorem unresolved_perm {f g : PublicationFacts} (hpairs : f.pairs = g.pairs) (h : Hierarchy) :
    (f.unresolved h).Perm (g.unresolved h) := by
  rw [List.perm_ext_iff_of_nodup (nodup_unresolved f h) (nodup_unresolved g h)]
  intro x
  rw [mem_unresolved_iff, mem_unresolved_iff, hpairs]

/-- Facts that name the same pairs are refused for the same reason, if all their creators are named. -/
theorem refusal?_congr {f g : PublicationFacts} (htype : f.instanceType = g.instanceType)
    (hchannel : f.channel = g.channel) (hpairs : f.pairs = g.pairs)
    (hf : ∀ c ∈ f.creators, c.identity.isBlank = false)
    (hg : ∀ c ∈ g.creators, c.identity.isBlank = false) (h : Hierarchy) :
    f.refusal? h = g.refusal? h := by
  have hnil : f.sharers h = [] ↔ g.sharers h = [] := by
    rw [← List.length_eq_zero_iff, ← List.length_eq_zero_iff, length_sharers_congr hpairs]
  rw [refusal?, refusal?, htype, hchannel, List.findIdx?_eq_none_iff.2 hf,
    List.findIdx?_eq_none_iff.2 hg]
  simp only [hnil]

/-! ### Credits -/

/-- The credit for a stake, and the institution that it counts for. -/
def credit (f : PublicationFacts) (h : Hierarchy) (share : Decimal)
    (s : CreatorIdentity × OrganizationId × OrganizationId) :
    Except PointError (OrganizationId × CreatorPoints) := do
  let points ← affiliationShare share (f.institutionsOf h s.1).card
    (f.affiliationsUnder h s.1 s.2.2).card
  return (s.2.2, ⟨s.1, s.2.1, roundPoints points⟩)

theorem credit_congr {f g : PublicationFacts} (hpairs : f.pairs = g.pairs) (h : Hierarchy)
    (share : Decimal) : f.credit h share = g.credit h share := by
  funext s
  rw [credit, institutionsOf_congr hpairs, affiliationsUnder_congr hpairs, credit]

variable {f : PublicationFacts} {h : Hierarchy} {share : Decimal}

theorem credits_eq_mapM {c : Creator} (hc : c ∈ mergeCreators f.creators) :
    c.credits h share = (c.stakes h).mapM (f.credit h share) := by
  rw [Creator.stakes, List.mapM_map, Creator.credits, length_roots hc]
  refine mapM_congr fun p _ => ?_
  rw [length_under hc]
  rfl

/-- Going from creator to creator is going from stake to stake. -/
theorem mapM_credits (f : PublicationFacts) (h : Hierarchy) (share : Decimal) :
    ((f.sharers h).mapM fun c : Creator => c.credits h share).map List.flatten =
      (f.stakes h).mapM (f.credit h share) := by
  have hcongr : ((f.sharers h).mapM fun c : Creator => c.credits h share) =
      (f.sharers h).mapM fun c => (c.stakes h).mapM (f.credit h share) :=
    mapM_congr fun c hc => credits_eq_mapM (mem_sharers.1 hc).1
  rw [stakes, mapM_flatMap, hcongr]

/-- The same pairs get the same credits, in some order. -/
theorem exists_credits_of_pairs {g : PublicationFacts} (hpairs : f.pairs = g.pairs)
    {credits : List (List (OrganizationId × CreatorPoints))}
    (hcredits : (f.sharers h).mapM (fun c => c.credits h share) = .ok credits) :
    ∃ credits', (g.sharers h).mapM (fun c => c.credits h share) = .ok credits' ∧
      credits.flatten.Perm credits'.flatten := by
  have hf := mapM_credits f h share
  have hg := mapM_credits g h share
  rw [hcredits] at hf
  obtain ⟨l, hl, hperm⟩ := exists_mapM_of_perm (stakes_perm hpairs h) hf.symm
  rw [← credit_congr hpairs, hl] at hg
  cases hcredits' : (g.sharers h).mapM fun c : Creator => c.credits h share with
  | error err =>
    rw [hcredits'] at hg
    cases hg
  | ok credits' =>
    rw [hcredits'] at hg
    cases hg
    exact ⟨credits', rfl, hperm⟩

end PublicationFacts

/-! ### Points that are alike -/

/-- Two institutions are the same with the same points, made of the same entries in some order. -/
structure InstitutionPoints.Alike (p q : InstitutionPoints) : Prop where
  institution : p.institution = q.institution
  points : p.points = q.points
  involvedOrganizations : p.involvedOrganizations = q.involvedOrganizations
  entries : p.entries.Perm q.entries

/-- Two calculations give the same points to the same institutions. -/
structure PointCalculation.Alike (c d : PointCalculation) : Prop where
  basePoints : c.basePoints = d.basePoints
  collaborationFactor : c.collaborationFactor = d.collaborationFactor
  isInternationalCollaboration : c.isInternationalCollaboration = d.isInternationalCollaboration
  creatorShareCount : c.creatorShareCount = d.creatorShareCount
  totalPoints : c.totalPoints = d.totalPoints
  institutions : List.Forall₂ InstitutionPoints.Alike c.institutions d.institutions

/-- Two results give the same points and leave out the same, in some order. -/
structure PointEvaluation.Alike (e e' : PointEvaluation) : Prop where
  calculation : e.calculation.Alike e'.calculation
  excluded : e.excluded.Perm e'.excluded

theorem InstitutionPoints.alike_of_perm {i : OrganizationId} {d : Decimal}
    {entries entries' : List CreatorPoints} (hperm : entries.Perm entries') :
    InstitutionPoints.Alike ⟨i, d, entries⟩ ⟨i, d, entries'⟩ where
  institution := rfl
  points := rfl
  involvedOrganizations := by
    refine SortedSet.ext_mem fun a => ?_
    rw [involvedOrganizations, involvedOrganizations, SortedSet.mem_ofList, SortedSet.mem_ofList]
    exact ((hperm.map _).filter _).mem_iff
  entries := hperm

section

variable {credits credits' : List (OrganizationId × CreatorPoints)} (hperm : credits.Perm credits')
  (hpoints : ∀ x ∈ credits, x.2.points.IsPoints)
  (hle : (credits.map fun x => x.2.points.toRat).sum ≤ pointsBound)
include hperm hpoints hle

/-- Credits in another order are entries in another order, with the same sum. -/
theorem rel_institutionPoints? {i : OrganizationId} {p? q? : Option InstitutionPoints}
    (hp : institutionPoints? credits i = .ok p?) (hq : institutionPoints? credits' i = .ok q?) :
    Option.Rel InstitutionPoints.Alike p? q? := by
  have hpoints' : ∀ x ∈ credits', x.2.points.IsPoints := fun x hx => hpoints x (hperm.mem_iff.2 hx)
  have hle' : (credits'.map fun x => x.2.points.toRat).sum ≤ pointsBound := by
    rwa [← (hperm.map _).sum_eq]
  have hsame : creditsOf credits i = creditsOf credits' i := ((hperm.filter _).map _).sum_eq
  obtain ⟨total, htotal, hisPoints, hvalue⟩ := exists_sum_entries hpoints hle i
  obtain ⟨total', htotal', hisPoints', hvalue'⟩ := exists_sum_entries hpoints' hle' i
  have hq' : total.toRat = total'.toRat := by rw [hvalue, hvalue', hsame]
  have hround : roundPoints total = roundPoints total' :=
    roundPoints_congr hisPoints hisPoints' (hvalue.trans_le (creditsOf_le hpoints hle i)) hq'
  have hzero : total.isZero = total'.isZero := by
    rw [Bool.eq_iff_iff, isZero_iff, isZero_iff, hq']
  rw [institutionPoints?, htotal] at hp
  rw [institutionPoints?, htotal'] at hq
  change Except.ok (if _ then _ else _) = _ at hp hq
  rw [← hzero, ← hround] at hq
  cases hp
  cases hq
  by_cases hz : total.isZero = true
  · rw [if_pos hz, if_pos hz]
    exact .none
  · rw [if_neg hz, if_neg hz]
    exact .some (InstitutionPoints.alike_of_perm ((hperm.filter _).map _))

theorem forall₂_institutions {ids : List OrganizationId} {ps qs : List (Option InstitutionPoints)}
    (hps : ids.mapM (institutionPoints? credits) = .ok ps)
    (hqs : ids.mapM (institutionPoints? credits') = .ok qs) :
    List.Forall₂ InstitutionPoints.Alike (ps.filterMap id) (qs.filterMap id) := by
  have hall : List.Forall₂ (Option.Rel InstitutionPoints.Alike) ps qs :=
    forall₂_of_mapM hps hqs fun i _ p? q? hp hq => rel_institutionPoints? hperm hpoints hle hp hq
  exact List.rel_filterMap (fun _ _ hrel => hrel) hall

end

/-- Points that are shared out for the same pairs are alike. -/
theorem alike_of_distributes {f g : PublicationFacts} {h : Hierarchy} {base : Decimal}
    {c d : PointCalculation} {credits credits' : List (OrganizationId × CreatorPoints)}
    (hpairs : f.pairs = g.pairs) (hperm : credits.Perm credits')
    (hc : shareOut f h base (f.sharers h) = .ok c) (hdc : c.Distributes f h credits)
    (hd : shareOut g h base (g.sharers h) = .ok d) (hdd : d.Distributes g h credits') :
    c.Alike d := by
  obtain ⟨ps, hps, hpsc⟩ := hdc.institutions
  obtain ⟨qs, hqs, hqsd⟩ := hdd.institutions
  have hids := PublicationFacts.institutionsOf_sharers_congr hpairs h
  rw [← hids] at hqs
  have hall := forall₂_institutions hperm hdc.points hdc.le hps hqs
  rw [← hpsc, ← hqsd] at hall
  have hmap : c.institutions.map InstitutionPoints.points =
      d.institutions.map InstitutionPoints.points := by
    rw [← List.forall₂_eq_eq_eq, List.forall₂_map_left_iff, List.forall₂_map_right_iff]
    exact hall.imp fun p q hpq => hpq.points
  -- the totals add up the same points in the same order
  obtain ⟨_, _, ps', total, -, -, -, htotal, hceq⟩ := exists_of_shareOut hc
  obtain ⟨_, _, qs', total', -, -, -, htotal', hdeq⟩ := exists_of_shareOut hd
  have hcinst : c.institutions = ps'.filterMap id := by rw [hceq]
  have hdinst : d.institutions = qs'.filterMap id := by rw [hdeq]
  rw [← hcinst, hmap] at htotal
  rw [← hdinst, htotal] at htotal'
  obtain rfl := Except.ok.inj htotal'
  have hcount := PublicationFacts.length_sharers_congr hpairs h
  exact {
    basePoints := by rw [hceq, hdeq]
    collaborationFactor := by rw [hceq, hdeq, hids]
    isInternationalCollaboration := by rw [hceq, hdeq, hids]
    creatorShareCount := by rw [hceq, hdeq, hcount]
    totalPoints := by rw [hceq, hdeq]
    institutions := hall }

/-! ### Scores -/

section

variable {f g : PublicationFacts} (h : Hierarchy) (htype : f.instanceType = g.instanceType)
  (hchannel : f.channel = g.channel) (hf : ∀ c ∈ f.creators, c.identity.isBlank = false)
  (hg : ∀ c ∈ g.creators, c.identity.isBlank = false) (hpairs : f.pairs = g.pairs)
include htype hchannel hf hg hpairs

/-- What some facts earn, facts that name the same pairs earn as well. -/
theorem exists_score_of_pairs {e : PointEvaluation} (he : score f h = .ok e) :
    ∃ e', score g h = .ok e' ∧ e.Alike e' := by
  have hrefusal := PublicationFacts.refusal?_congr htype hchannel hpairs hf hg h
  have hids := PublicationFacts.institutionsOf_sharers_congr hpairs h
  have hcount := PublicationFacts.length_sharers_congr hpairs h
  obtain ⟨base, hbase, hnone, -, hc, hexcluded, -⟩ := exists_of_score he
  -- the creators of `g` get the same share, and it makes the same credits
  obtain ⟨share, credits, -, -, hshare, hcredits, -⟩ := exists_of_shareOut hc
  obtain ⟨credits', hcredits', hperm⟩ := PublicationFacts.exists_credits_of_pairs hpairs hcredits
  have hbase' := hbase
  have hshare' := hshare
  rw [htype, hchannel] at hbase'
  rw [hids, hcount] at hshare'
  obtain ⟨c, hc', hdc⟩ := exists_shareOut_of_credits hbase hshare hcredits
  obtain ⟨d, hd, hdd⟩ := exists_shareOut_of_credits hbase' hshare' hcredits'
  cases hc.symm.trans hc'
  have halike := alike_of_distributes hpairs hperm hc hdc hd hdd
  have hunresolved := PublicationFacts.unresolved_perm hpairs h
  rw [← hexcluded] at hunresolved
  rw [hrefusal] at hnone
  exact ⟨_, score_of_shareOut hnone hbase' hd hdd.exact, halike, hunresolved⟩

/-- Facts that name the same pairs fail with the same error, if no count starts again from nothing. -/
theorem error_congr {err err' : PointError} (hcount : (f.resolvable h).card < 2 ^ 32)
    (he : score f h = .error err) (he' : score g h = .error err') : err = err' := by
  have hrefusal := PublicationFacts.refusal?_congr htype hchannel hpairs hf hg h
  have hresolvable : f.resolvable h = g.resolvable h := by
    rw [PublicationFacts.resolvable, hpairs, PublicationFacts.resolvable]
  rcases score_cases f h hcount with ⟨r, hr, herr⟩ | ⟨-, e, hok, -⟩
  · rcases score_cases g h (hresolvable ▸ hcount) with ⟨r', hr', herr'⟩ | ⟨-, e', hok', -⟩
    · rw [hrefusal, hr'] at hr
      cases hr
      exact Except.error.inj (he.symm.trans (herr.trans (herr'.symm.trans he')))
    · rw [hok'] at he'
      cases he'
  · rw [hok] at he
    cases he

/-- Points depend on who is affiliated where, and on nothing else that is said of creators: facts of the
same category in the same channel that name the same pairs of a creator and an affiliation earn points that
are alike, or none.  They are refused for the same reason unless there are more pairs than 32 bits count,
when the order in which creators are named decides whose share is the first that cannot be divided. -/
theorem score_rearranged :
    (∃ err err', score f h = .error err ∧ score g h = .error err' ∧
      ((f.resolvable h).card < 2 ^ 32 → err = err')) ∨
    ∃ e e', score f h = .ok e ∧ score g h = .ok e' ∧ e.Alike e' := by
  cases he : score f h with
  | ok e =>
    obtain ⟨e', he', halike⟩ := exists_score_of_pairs h htype hchannel hf hg hpairs he
    exact .inr ⟨e, e', rfl, he', halike⟩
  | error err =>
    cases he' : score g h with
    | ok e' =>
      -- these would be points for the pairs of `f`, too
      obtain ⟨e, hok, -⟩ := exists_score_of_pairs h htype.symm hchannel.symm hg hf hpairs.symm he'
      rw [he] at hok
      cases hok
    | error err' =>
      exact .inl ⟨err, err', rfl, rfl,
        fun hcount => error_congr h htype hchannel hf hg hpairs hcount he he'⟩

end

/-- Two creators who change places, the one with too many institutions and the other with too many
affiliations under an institution, make another error. -/
theorem score_duet_exchanged :
    let f : PublicationFacts := duet 'a' 'b' 4294967296 (by decide)
    let g : PublicationFacts := duet 'b' 'a' 4294967296 (by decide)
    f.instanceType = g.instanceType ∧ f.channel = g.channel ∧
      (∀ c ∈ f.creators, c.identity.isBlank = false) ∧
      (∀ c ∈ g.creators, c.identity.isBlank = false) ∧ f.pairs = g.pairs ∧
      ∃ h, Hierarchy.ofOrganizations (grounds 4294967296) = .ok h ∧
        score f h = .error (.defect (.overflow .institutionShare)) ∧
        score g h = .error (.defect (.overflow .affiliationShare)) := by
  intro f g
  obtain ⟨h, hos⟩ := exists_grounds 4294967296
  exact ⟨instanceType_duet.trans instanceType_duet.symm, channel_duet.trans channel_duet.symm,
    named_duet (by decide), named_duet (by decide), pairs_duet_comm, h, hos,
    score_duet hos (by decide) (by decide)⟩

/-- Creators in another order, one of them in two entries and another without affiliations, and an
affiliation that is named twice. -/
theorem score_rearranged_split :
    let id (s : String) : OrganizationId := ⟨s⟩
    let h : Hierarchy := ⟨⟨[id "a.1", id "a", id "b"], [(id "a.1", id "a")]⟩,
      [.childOf (id "a.1") (id "a"), .blank (id "b")], by decide⟩
    let f : PublicationFacts :=
      ⟨⟨"p"⟩, .academicArticle, ⟨"c", .journal, .levelTwo⟩,
        [⟨.verified "x", [id "a.1", id "b"]⟩, ⟨.unverified "y", [id "b", id "?"]⟩], by decide⟩
    let g : PublicationFacts :=
      ⟨⟨"q"⟩, .academicArticle, ⟨"c", .journal, .levelTwo⟩,
        [⟨.unverified "y", [id "?", id "b", id "?"]⟩, ⟨.verified "x", [id "b"]⟩,
          ⟨.verified "z", []⟩, ⟨.verified "x", [id "a.1"]⟩], by decide⟩
    f.instanceType = g.instanceType ∧ f.channel = g.channel ∧
      (∀ c ∈ f.creators, c.identity.isBlank = false) ∧
      (∀ c ∈ g.creators, c.identity.isBlank = false) ∧ f.pairs = g.pairs ∧
      ∃ e e', score f h = .ok e ∧ score g h = .ok e' ∧ e.Alike e' := by
  intro id h f g
  have hf : ∀ c ∈ f.creators, c.identity.isBlank = false := by decide
  have hg : ∀ c ∈ g.creators, c.identity.isBlank = false := by decide
  have hpairs : f.pairs = g.pairs := by decide
  have hok : (score f h).isOk = true := by decide +kernel
  refine ⟨rfl, rfl, hf, hg, hpairs, ?_⟩
  obtain ⟨err, -, he, -, -⟩ | halike := score_rearranged (f := f) (g := g) h rfl rfl hf hg hpairs
  · rw [he] at hok
    cases hok
  · exact halike

end PublicationIndicator
