import PublicationIndicator.Proofs.Points.Share
import PublicationIndicator.Proofs.Points.Stakes
import PublicationIndicator.Proofs.Traversal

/-!
# PublicationIndicator.Proofs.Points.Entry — what an entry of a calculation is worth

`calculate_cases` and `exists_of_shareOut` say what a calculation consists of, `exists_of_mem_entries`
where an entry comes from.  The points that creators share are a whole number of hundredths, `10.4` at
most (`exists_pool`), so that an entry is the exact share, rounded once (`toRat_points_of_score`).
-/

namespace PublicationIndicator

open Decimal

/-! ### What a calculation consists of -/

namespace PublicationFacts

/-- The affiliations that a calculation leaves out. -/
def unresolved (f : PublicationFacts) (h : Hierarchy) : List ExcludedAffiliation :=
  (mergeCreators f.creators).flatMap fun c => c.unresolved h

/-- Why the facts earn no points: the first of the reasons that applies. -/
def refusal? (f : PublicationFacts) (h : Hierarchy) : Option InvalidFacts :=
  if ¬ f.channel.scientificValue.isRated then some (.channelNotRated f.channel.scientificValue)
  else if ¬ f.instanceType.accepts f.channel.channelType then
    some (.incompatibleChannel f.instanceType f.channel.channelType)
  else
    match f.creators.findIdx? (fun c => c.identity.isBlank) with
    | some index => some (.blankCreator index)
    | none => if f.sharers h = [] then some .noResolvableCreators else none

end PublicationFacts

/-- Facts are refused for a reason, or they have base points and creators to share them out to. -/
theorem calculate_cases (f : PublicationFacts) (h : Hierarchy) :
    (∃ r, f.refusal? h = some r ∧ calculate f h = .error (.invalidFacts r)) ∨
      ∃ base, f.refusal? h = none ∧ f.sharers h ≠ [] ∧
        basePoints? f.instanceType f.channel.scientificValue = some base ∧
        calculate f h = (shareOut f h base (f.sharers h)).map fun c => ⟨c, f.unresolved h⟩ := by
  have hrated := isSome_basePoints? f.instanceType f.channel.scientificValue
  rw [calculate, PublicationFacts.refusal?, ← hrated]
  cases hbase : basePoints? f.instanceType f.channel.scientificValue with
  | none => exact .inl ⟨_, rfl, rfl⟩
  | some base =>
    by_cases hch : f.instanceType.accepts f.channel.channelType
    · cases hblank : f.creators.findIdx? (fun c => c.identity.isBlank) with
      | some index =>
        refine .inl ⟨.blankCreator index, by simp [hch], ?_⟩
        simp [hch, bind, Except.bind, throw, throwThe, MonadExceptOf.throw]
      | none =>
        by_cases hnil : f.sharers h = []
        · refine .inl ⟨.noResolvableCreators, by simp [hch, hnil], ?_⟩
          unfold PublicationFacts.sharers at hnil
          simp only [hch, hnil]
          rfl
        · refine .inr ⟨base, by simp [hch, hnil], hnil, rfl, ?_⟩
          rw [PublicationFacts.sharers] at hnil ⊢
          simp only [hch, hnil, not_true_eq_false, ↓reduceIte]
          cases shareOut f h base ((mergeCreators f.creators).filter fun c => c.roots h ≠ []) <;> rfl
    · refine .inl ⟨.incompatibleChannel f.instanceType f.channel.channelType, by simp [hch], ?_⟩
      simp [hch, bind, Except.bind, throw, throwThe, MonadExceptOf.throw]

/-- Facts that are not refused have base points, which are shared out. -/
theorem exists_calculate_eq {f : PublicationFacts} {h : Hierarchy} (hnone : f.refusal? h = none) :
    ∃ base, basePoints? f.instanceType f.channel.scientificValue = some base ∧
      calculate f h = (shareOut f h base (f.sharers h)).map fun c => ⟨c, f.unresolved h⟩ := by
  rcases calculate_cases f h with ⟨r, hr, -⟩ | ⟨base, -, -, hbase, hcalc⟩
  · rw [hnone] at hr
    cases hr
  · exact ⟨base, hbase, hcalc⟩

/-- A calculation that is carried out has come through every step. -/
theorem exists_of_shareOut {f : PublicationFacts} {h : Hierarchy} {base : Decimal}
    {cs : List Creator} {c : PointCalculation} (hc : shareOut f h base cs = .ok c) :
    ∃ share credits institutions total,
      creatorShare base (collaborationFactor (institutionsOf h cs).length) cs.length = .ok share ∧
      cs.mapM (fun c => c.credits h share) = .ok credits ∧
      (institutionsOf h cs).mapM (institutionPoints? credits.flatten) = .ok institutions ∧
      sumPoints ((institutions.filterMap id).map InstitutionPoints.points) = .ok total ∧
      c = { instanceType := f.instanceType
            channel := f.channel
            isInternationalCollaboration := isCollaboration (institutionsOf h cs).length
            collaborationFactor := collaborationFactor (institutionsOf h cs).length
            basePoints := roundPoints base
            creatorShareCount := count32 cs.length
            totalPoints := roundPoints total
            institutions := institutions.filterMap id } := by
  unfold shareOut at hc
  obtain ⟨share, hshare, hc⟩ := bind_eq_ok_iff.1 hc
  obtain ⟨credits, hcredits, hc⟩ := bind_eq_ok_iff.1 hc
  obtain ⟨institutions, hinstitutions, hc⟩ := bind_eq_ok_iff.1 hc
  obtain ⟨total, htotal, hc⟩ := bind_eq_ok_iff.1 hc
  cases hc
  exact ⟨share, credits, institutions, total, hshare, hcredits, hinstitutions, htotal, rfl⟩

theorem collaborationFactor_of_shareOut {f : PublicationFacts} {h : Hierarchy} {base : Decimal}
    {cs : List Creator} {c : PointCalculation} (hc : shareOut f h base cs = .ok c) :
    c.collaborationFactor = collaborationFactor (institutionsOf h cs).length := by
  obtain ⟨_, _, _, _, _, _, _, _, rfl⟩ := exists_of_shareOut hc
  rfl

theorem creatorShareCount_of_shareOut {f : PublicationFacts} {h : Hierarchy} {base : Decimal}
    {cs : List Creator} {c : PointCalculation} (hc : shareOut f h base cs = .ok c) :
    c.creatorShareCount = count32 cs.length := by
  obtain ⟨_, _, _, _, _, _, _, _, rfl⟩ := exists_of_shareOut hc
  rfl

/-- What is scored has been shared out among creators and found right. -/
theorem exists_of_score {f : PublicationFacts} {h : Hierarchy} {e : PointEvaluation}
    (he : score f h = .ok e) :
    ∃ base, basePoints? f.instanceType f.channel.scientificValue = some base ∧
      f.refusal? h = none ∧ f.sharers h ≠ [] ∧
      shareOut f h base (f.sharers h) = .ok e.calculation ∧ e.excluded = f.unresolved h ∧
      e.calculation.check = .ok () := by
  unfold score at he
  obtain ⟨e, hcalc, he⟩ := bind_eq_ok_iff.1 he
  obtain ⟨⟨⟩, hcheck, he⟩ := bind_eq_ok_iff.1 he
  cases he
  rcases calculate_cases f h with ⟨r, -, herr⟩ | ⟨base, hnone, hnil, hbase, hshareOut⟩
  · rw [herr] at hcalc
    cases hcalc
  rw [hshareOut] at hcalc
  cases hresult : shareOut f h base (f.sharers h) with
  | error err =>
    rw [hresult] at hcalc
    cases hcalc
  | ok result =>
    rw [hresult] at hcalc
    cases hcalc
    exact ⟨base, hbase, hnone, hnil, hresult, rfl, hcheck⟩

theorem expect_eq_ok_iff {step : CalculationStep} {d? : Option Decimal} {d : Decimal} :
    step.expect d? = .ok d ↔ d? = some d := by
  cases d? <;> simp [CalculationStep.expect]

/-! ### Where an entry comes from -/

/-- A creator's credits are one for each affiliation in the hierarchy. -/
theorem exists_of_mem_credits {c : Creator} {h : Hierarchy} {share : Decimal}
    {credits : List (OrganizationId × CreatorPoints)} (hc : c.credits h share = .ok credits)
    {i : OrganizationId} {x : CreatorPoints} (hx : (i, x) ∈ credits) :
    ∃ a points, (a, i) ∈ c.resolved h ∧
      affiliationShare share (c.roots h).length (c.under h i).length = .ok points ∧
      x = ⟨c.identity, a, roundPoints points⟩ := by
  obtain ⟨⟨a, i'⟩, hmem, hstep⟩ := exists_of_mem_mapM hc hx
  obtain ⟨points, hpoints, hstep⟩ := bind_eq_ok_iff.1 hstep
  cases hstep
  exact ⟨a, points, hmem, hpoints, rfl⟩

/-- An institution with points has the credits that count for it. -/
theorem entries_of_institutionPoints? {credits : List (OrganizationId × CreatorPoints)}
    {i : OrganizationId} {p : InstitutionPoints}
    (hp : institutionPoints? credits i = .ok (some p)) :
    p.institution = i ∧ p.entries = (credits.filter (fun c => c.1 = i)).map (·.2) := by
  unfold institutionPoints? at hp
  obtain ⟨total, -, hp⟩ := bind_eq_ok_iff.1 hp
  change Except.ok _ = Except.ok _ at hp
  by_cases hzero : total.isZero
  · simp [hzero] at hp
  · simp only [hzero] at hp
    cases hp
    exact ⟨rfl, rfl⟩

theorem entries_of_mem_filterMap {credits : List (OrganizationId × CreatorPoints)}
    {ids : List OrganizationId} {institutions : List (Option InstitutionPoints)}
    (hids : ids.mapM (institutionPoints? credits) = .ok institutions) {p : InstitutionPoints}
    (hp : p ∈ institutions.filterMap id) :
    p.entries = (credits.filter (fun c => c.1 = p.institution)).map (·.2) := by
  have hmem : some p ∈ institutions := by simpa using hp
  obtain ⟨i, -, hpoints⟩ := exists_of_mem_mapM hids hmem
  obtain ⟨rfl, hentries⟩ := entries_of_institutionPoints? hpoints
  exact hentries

/-- Each entry of an institution is the credit of a creator with a share, for an affiliation that
leads to the institution. -/
theorem exists_of_mem_entries {f : PublicationFacts} {h : Hierarchy} {base : Decimal}
    {cs : List Creator} {result : PointCalculation} (hresult : shareOut f h base cs = .ok result)
    {p : InstitutionPoints} (hp : p ∈ result.institutions) {x : CreatorPoints} (hx : x ∈ p.entries) :
    ∃ share, creatorShare base result.collaborationFactor cs.length = .ok share ∧
      ∃ c ∈ cs, ∃ a points, (a, p.institution) ∈ c.resolved h ∧
        affiliationShare share (c.roots h).length (c.under h p.institution).length = .ok points ∧
        x = ⟨c.identity, a, roundPoints points⟩ := by
  obtain ⟨share, credits, institutions, total, hshare, hcredits, hinstitutions, -, rfl⟩ :=
    exists_of_shareOut hresult
  refine ⟨share, hshare, ?_⟩
  rw [entries_of_mem_filterMap hinstitutions hp] at hx
  obtain ⟨⟨i, x⟩, hix, rfl⟩ := List.mem_map.1 hx
  obtain ⟨hflat, hi⟩ := List.mem_filter.1 hix
  obtain rfl : i = p.institution := by simpa using hi
  obtain ⟨l, hl, hxl⟩ := List.mem_flatten.1 hflat
  obtain ⟨c, hc, hcl⟩ := exists_of_mem_mapM hcredits hl
  exact ⟨c, hc, exists_of_mem_credits hcl hxl⟩

/-! ### What is shared -/

theorem toRat_ofByte (n : UInt8) : (ofByte n).toRat = (n.toNat * 10 : ℕ) / 10 := by
  rw [toRat_eq, ofByte]
  simp

theorem toRat_ofTenths (n : UInt8) : (ofTenths n).toRat = (n.toNat : ℚ) / 10 := by
  rw [toRat_eq, ofTenths]
  simp

/-- Base points are a number of tenths, eight at most. -/
theorem toRat_basePoints? {t : InstanceType} {v : ScientificValue} {base : Decimal}
    (hbase : basePoints? t v = some base) :
    ∃ b : ℕ, 0 < b ∧ b ≤ 80 ∧ base.toRat = b / 10 := by
  have htable : base = ofByte 1 ∨ base = ofByte 3 ∨ base = ofByte 5 ∨ base = ofByte 8 ∨
      base = ofTenths 7 := by
    cases v <;> cases t <;> cases hbase <;> simp
  rcases htable with rfl | rfl | rfl | rfl | rfl
  · exact ⟨10, by omega, by omega, toRat_ofByte 1⟩
  · exact ⟨30, by omega, by omega, toRat_ofByte 3⟩
  · exact ⟨50, by omega, by omega, toRat_ofByte 5⟩
  · exact ⟨80, by omega, by omega, toRat_ofByte 8⟩
  · exact ⟨7, by omega, by omega, toRat_ofTenths 7⟩

theorem toRat_collaborationFactor (n : Nat) :
    ∃ b : ℕ, 0 < b ∧ b ≤ 13 ∧ (collaborationFactor n).toRat = b / 10 := by
  unfold collaborationFactor
  split
  · exact ⟨13, by omega, by omega, toRat_ofTenths 13⟩
  · exact ⟨10, by omega, by omega, toRat_ofByte 1⟩

/-- What creators share is a whole number of hundredths, `10.4` at most, and not rounded. -/
theorem exists_pool {t : InstanceType} {v : ScientificValue} {base : Decimal}
    (hbase : basePoints? t v = some base) (n : Nat) :
    ∃ pool, base.mul? (collaborationFactor n) = some pool ∧
      pool.toRat = base.toRat * (collaborationFactor n).toRat ∧
      ∃ b : ℕ, 0 < b ∧ b ≤ 1040 ∧ pool.toRat = b / 100 := by
  obtain ⟨b, hb, hb', hbq⟩ := toRat_basePoints? hbase
  obtain ⟨k, hk, hk', hkq⟩ := toRat_collaborationFactor n
  have hprod : base.toRat * (collaborationFactor n).toRat = (b * k : ℕ) / 100 := by
    rw [hbq, hkq]
    push_cast
    ring
  have hle : b * k ≤ 1040 := Nat.mul_le_mul hb' hk'
  have hleq : ((b * k : ℕ) : ℚ) ≤ 1040 := by exact_mod_cast hle
  have hfit : Fits 2 (base.toRat * (collaborationFactor n).toRat) := by
    refine fits_of_abs_le (by omega) ?_
    rw [hprod, abs_of_nonneg (by positivity)]
    linarith
  obtain ⟨pool, hpool, hnear⟩ := exists_mul?_near (by omega) hfit
  have hexact := hnear.exact (b * k : ℕ) (by rw [hprod]; norm_num)
  exact ⟨pool, hpool, hexact, b * k, Nat.mul_pos hb hk, hle, hexact.trans hprod⟩

/-! ### What an entry is worth -/

/-- Where 32 bits count the pairs of a creator and an affiliation in the hierarchy, the points of an entry
are the exact share of base points times factor, divided by the number of creators, by the number of the
creator's institutions and by the number of the creator's affiliations under this one, and rounded once
to four digits, a half up. -/
theorem toRat_points_of_score {f : PublicationFacts} {h : Hierarchy} {e : PointEvaluation}
    (hcount : (f.resolvable h).card < 2 ^ 32) (he : score f h = .ok e) {p : InstitutionPoints}
    (hp : p ∈ e.calculation.institutions) {x : CreatorPoints} (hx : x ∈ p.entries) :
    ∃ base, basePoints? f.instanceType f.channel.scientificValue = some base ∧
      0 < e.calculation.creatorShareCount * (f.institutionsOf h x.creator).card *
        (f.affiliationsUnder h x.creator p.institution).card ∧
      x.points.toRat =
        round (base.toRat * e.calculation.collaborationFactor.toRat /
          (e.calculation.creatorShareCount * (f.institutionsOf h x.creator).card *
            (f.affiliationsUnder h x.creator p.institution).card : ℕ) * 10 ^ 4) / 10 ^ 4 := by
  obtain ⟨base, hbase, -, -, hresult, -, -⟩ := exists_of_score he
  obtain ⟨share, hshare, c, hc, a, points, -, hpoints, rfl⟩ := exists_of_mem_entries hresult hp hx
  have hmerged : c ∈ mergeCreators f.creators := (PublicationFacts.mem_sharers.1 hc).1
  -- the three divisions start from the same pool
  obtain ⟨pool, hpool, hprod, b, -, hb, hbq⟩ :=
    exists_pool hbase (institutionsOf h (f.sharers h)).length
  rw [← collaborationFactor_of_shareOut hresult] at hpool hprod
  rw [creatorShare, expect_eq_ok_iff, hpool, Option.bind_some] at hshare
  obtain ⟨part, hpart, hpoints⟩ := bind_eq_ok_iff.1 hpoints
  rw [expect_eq_ok_iff] at hpart hpoints
  have hvalue := toRat_roundPoints_share hbq hb hshare hpart hpoints
  have hroots := PublicationFacts.length_roots_le hc
  have hunder := PublicationFacts.length_under_le hc p.institution
  rw [← creatorShareCount_of_shareOut hresult, count32_of_lt (hroots.trans_lt hcount),
    count32_of_lt (hunder.trans_lt hcount), hprod, length_roots hmerged, length_under hmerged] at hvalue
  exact ⟨base, hbase, hvalue⟩

/-- A creator who is named twice and has three affiliations with two institutions. -/
theorem toRat_points_of_score_two_institutions :
    let id (s : String) : OrganizationId := ⟨s⟩
    let h : Hierarchy :=
      ⟨⟨[id "a.1", id "a", id "a.2", id "b"], [(id "a.1", id "a"), (id "a.2", id "a")]⟩,
        [.childOf (id "a.1") (id "a"), .childOf (id "a.2") (id "a"), .blank (id "b")], by decide⟩
    let f : PublicationFacts :=
      ⟨⟨"p"⟩, .academicChapter, ⟨"c", .publisher, .levelOne⟩,
        [⟨.verified "x", [id "a.1", id "b"]⟩, ⟨.unverified "y", [id "b", id "?"]⟩,
          ⟨.verified "x", [id "a.2", id "a.1"]⟩, ⟨.verified "z", [id "b"]⟩], by decide⟩
    (f.resolvable h).card < 2 ^ 32 ∧ ∃ e, score f h = .ok e ∧ ∃ p ∈ e.calculation.institutions, ∃ x ∈ p.entries,
      ∃ base, basePoints? f.instanceType f.channel.scientificValue = some base ∧
      0 < e.calculation.creatorShareCount * (f.institutionsOf h x.creator).card *
        (f.affiliationsUnder h x.creator p.institution).card ∧
      x.points.toRat =
        round (base.toRat * e.calculation.collaborationFactor.toRat /
          (e.calculation.creatorShareCount * (f.institutionsOf h x.creator).card *
            (f.affiliationsUnder h x.creator p.institution).card : ℕ) * 10 ^ 4) / 10 ^ 4 := by
  intro id h f
  have hcount : (f.resolvable h).card < 2 ^ 32 := by decide
  have hentry : (match score f h with
      | .ok e => e.calculation.institutions.any fun p => ¬ p.entries.isEmpty
      | .error _ => false) = true := by decide +kernel
  cases he : score f h with
  | error err =>
    rw [he] at hentry
    cases hentry
  | ok e =>
    rw [he] at hentry
    obtain ⟨p, hp, hne⟩ := List.any_eq_true.1 hentry
    obtain ⟨x, hx⟩ : ∃ x, x ∈ p.entries := List.exists_mem_of_ne_nil _ (by simpa using hne)
    exact ⟨hcount, e, rfl, p, hp, x, hx, toRat_points_of_score hcount he hp hx⟩

end PublicationIndicator
