import PublicationIndicator.Proofs.Points.Credits

/-!
# PublicationIndicator.Proofs.Points.Soundness — calculations have no defects

The points of institutions and the total are exact sums: `InstitutionPoints.Exact` is what holds of an
institution, `PointCalculation.Exact` of a whole calculation, and what is exact passes the check
(`check_of_exact`).  Memory does not hold so many credits that their sum would have to be rounded, so that
a calculation that gets through its divisions distributes all credits to institutions
(`exists_shareOut_of_credits`, `exists_distributes`).  Facts whose pairs 32 bits count are refused for a
reason that lies in them, or earn points (`score_cases`).
-/

namespace PublicationIndicator

open Decimal

/-- An institution whose points are the positive sum of its entries, with four digits. -/
structure InstitutionPoints.Exact (p : InstitutionPoints) : Prop where
  points : p.points.IsPoints
  positive : 0 < p.points.toRat
  scale : p.points.scale = 4
  entries : ∀ x ∈ p.entries, x.points.IsPoints
  sum : p.points.toRat = (p.entries.map fun x => x.points.toRat).sum
  le : p.points.toRat ≤ pointsBound

/-- A calculation of exact points for institutions, with their sum for the total. -/
structure PointCalculation.Exact (c : PointCalculation) : Prop where
  institutions : ∀ p ∈ c.institutions, p.Exact
  total : c.totalPoints.toRat = (c.institutions.map fun p => p.points.toRat).sum
  le : c.totalPoints.toRat ≤ pointsBound
  base : 0 ≤ c.basePoints.toRat

theorem exists_sumPoints {ds : List Decimal} (h : ∀ d ∈ ds, d.IsPoints)
    (hle : (ds.map toRat).sum ≤ pointsBound) :
    ∃ r, sumPoints ds = .ok r ∧ r.IsPoints ∧ r.toRat = (ds.map toRat).sum := by
  obtain ⟨r, hr, hpoints, hsum⟩ := exists_sum?_eq h hle
  exact ⟨r, expect_eq_ok_iff.2 hr, hpoints, hsum⟩

/-! ### The check -/

/-- What is exact about an institution passes the check. -/
theorem InstitutionPoints.check_of_exact {p : InstitutionPoints} (h : p.Exact) :
    p.check = .ok () := by
  have hpos : ¬ p.points.coefficient ≤ 0 := not_le.2 (coefficient_pos_iff.2 h.positive)
  have hscale : ¬ p.points.scale ≠ pointScale := not_not.2 h.scale
  have hpoints : ∀ d ∈ p.entries.map CreatorPoints.points, d.IsPoints := by
    intro d hd
    obtain ⟨x, hx, rfl⟩ := List.mem_map.1 hd
    exact h.entries x hx
  have hvalues : ((p.entries.map CreatorPoints.points).map toRat).sum = p.points.toRat := by
    rw [h.sum, List.map_map]
    rfl
  obtain ⟨sum, hsum, -, hsumq⟩ := exists_sumPoints hpoints (hvalues.trans_le h.le)
  have hbeq : (sum == p.points) = true := beq_iff_toRat_eq.2 (hsumq.trans hvalues)
  have hentries : (p.entries.any fun x => x.points.isNegative) = false := by
    refine List.any_eq_false.2 fun x hx => ?_
    rw [not_isNegative_iff.2 (h.entries x hx).nonneg]
    exact Bool.false_ne_true
  have hdiffer : ¬ ((p.entries.any fun x => x.points.isNegative) = true ∨
      ¬ (sum == p.points) = true) := by
    rw [hentries, hbeq]
    decide
  unfold check
  simp only [hpos, hscale, hsum, ↓reduceIte]
  show (if _ then _ else _) = _
  rw [if_neg hdiffer]
  rfl

theorem sum_nonneg_of_exact {ps : List InstitutionPoints} (h : ∀ p ∈ ps, p.Exact) :
    0 ≤ (ps.map fun p => p.points.toRat).sum := by
  refine List.sum_nonneg fun q hq => ?_
  obtain ⟨p, hp, rfl⟩ := List.mem_map.1 hq
  exact (h p hp).positive.le

/-- The institutions' points are added up. -/
theorem exists_checkInstitutions {ps : List InstitutionPoints} (h : ∀ p ∈ ps, p.Exact)
    {a : Decimal} (ha : a.IsPoints)
    (hle : a.toRat + (ps.map fun p => p.points.toRat).sum ≤ pointsBound) :
    ∃ r, ps.foldlM checkInstitutions a = .ok r ∧
      r.toRat = a.toRat + (ps.map fun p => p.points.toRat).sum := by
  induction ps generalizing a with
  | nil => exact ⟨a, rfl, by simp⟩
  | cons p ps ih =>
    obtain ⟨hp, hps⟩ := List.forall_mem_cons.1 h
    rw [List.map_cons, List.sum_cons, ← add_assoc] at hle ⊢
    have hrest := sum_nonneg_of_exact hps
    obtain ⟨s, hs, hspoints, hsum⟩ := exists_add?_eq ha hp.points (by linarith)
    obtain ⟨r, hr, hrsum⟩ := ih hps hspoints (by rw [hsum]; exact hle)
    refine ⟨r, ?_, by rw [hrsum, hsum]⟩
    have hstep : checkInstitutions a p = .ok s := by
      rw [checkInstitutions, InstitutionPoints.check_of_exact hp, hs]
      rfl
    rw [List.foldlM_cons, hstep]
    exact hr

/-- What is exact about a calculation passes the check. -/
theorem PointCalculation.check_of_exact {c : PointCalculation} (h : c.Exact) : c.check = .ok () := by
  have htotal : 0 ≤ c.totalPoints.toRat := by
    rw [h.total]
    exact sum_nonneg_of_exact h.institutions
  have hsigns : ¬ (c.totalPoints.isNegative ∨ c.basePoints.isNegative) := by
    rw [not_isNegative_iff.2 htotal, not_isNegative_iff.2 h.base]
    decide
  have hle : zero.toRat + (c.institutions.map fun p => p.points.toRat).sum ≤ pointsBound := by
    rw [toRat_zero, zero_add, ← h.total]
    exact h.le
  obtain ⟨sum, hsum, hsumq⟩ := exists_checkInstitutions h.institutions isPoints_zero hle
  -- nothing was rounded, so that the tolerance is not needed
  have hdifference : sum.toRat - c.totalPoints.toRat = 0 := by
    rw [hsumq, h.total, toRat_zero, zero_add, sub_self]
  have htolerance : ¬ (mkRat (count32 (max c.institutions.length 1)) (Nat.pow 10 pointScale) < 0 ∨
      mkRat (count32 (max c.institutions.length 1)) (Nat.pow 10 pointScale) < -0) := by
    have hnonneg : (0 : ℚ) ≤ mkRat (count32 (max c.institutions.length 1)) (Nat.pow 10 pointScale) := by
      rw [Rat.mkRat_eq_div]
      positivity
    rw [neg_zero, or_self]
    exact not_lt.2 hnonneg
  unfold check
  simp only [hsigns, hsum, ↓reduceIte]
  show (if _ then _ else _) = _
  rw [hdifference, if_neg htolerance]
  rfl

/-! ### Institutions -/

/-- What the credits for an institution come to. -/
def creditsOf (credits : List (OrganizationId × CreatorPoints)) (i : OrganizationId) : ℚ :=
  ((credits.filter fun x => x.1 = i).map fun x => x.2.points.toRat).sum

/-- Each credit counts for one institution. -/
theorem sum_creditsOf {ids : List OrganizationId} (hn : ids.Nodup)
    {credits : List (OrganizationId × CreatorPoints)} (hids : ∀ x ∈ credits, x.1 ∈ ids) :
    (ids.map (creditsOf credits)).sum = (credits.map fun x => x.2.points.toRat).sum :=
  sum_groups Prod.fst (fun x : OrganizationId × CreatorPoints => x.2.points.toRat) hn hids

theorem sum_map_filterMap {α : Type} (f : α → ℚ) (l : List (Option α)) :
    ((l.filterMap id).map f).sum = (l.map fun a? => a?.elim 0 f).sum := by
  induction l with
  | nil => rfl
  | cons a? l ih =>
    rw [List.map_cons, List.sum_cons, ← ih]
    cases a? with
    | none => rw [List.filterMap_cons_none rfl, Option.elim_none, zero_add]
    | some a =>
      rw [List.filterMap_cons_some (rfl : id (some a) = some a), List.map_cons, List.sum_cons,
        Option.elim_some]

/-- What is not nothing makes exact points when it is rounded. -/
theorem exact_roundPoints {i : OrganizationId} {total : Decimal} {entries : List CreatorPoints}
    (htotal : total.IsPoints) (hne : total.toRat ≠ 0) (hle : total.toRat ≤ pointsBound)
    (hentries : ∀ x ∈ entries, x.points.IsPoints)
    (hsum : total.toRat = (entries.map fun x => x.points.toRat).sum) :
    InstitutionPoints.Exact ⟨i, roundPoints total, entries⟩ := by
  obtain ⟨hround, hscale⟩ := roundPoints_of_isPoints htotal hle
  exact {
    points := isPoints_roundPoints htotal.nonneg
    positive := by
      rw [hround]
      exact lt_of_le_of_ne htotal.nonneg hne.symm
    scale := hscale
    entries := hentries
    sum := hround.trans hsum
    le := hround.trans_le hle }

theorem isPoints_entries {credits : List (OrganizationId × CreatorPoints)}
    (hpoints : ∀ x ∈ credits, x.2.points.IsPoints) (i : OrganizationId) :
    ∀ x ∈ (credits.filter fun x => x.1 = i).map (·.2), x.points.IsPoints := by
  intro x hx
  obtain ⟨y, hy, rfl⟩ := List.mem_map.1 hx
  exact hpoints y (List.mem_filter.1 hy).1

section

variable {credits : List (OrganizationId × CreatorPoints)}
  (hpoints : ∀ x ∈ credits, x.2.points.IsPoints)
  (hle : (credits.map fun x => x.2.points.toRat).sum ≤ pointsBound)
include hpoints hle

theorem creditsOf_le (i : OrganizationId) : creditsOf credits i ≤ pointsBound := by
  have hsub : ((credits.filter fun x => x.1 = i).map fun x => x.2.points.toRat).Sublist
      (credits.map fun x => x.2.points.toRat) := List.filter_sublist.map _
  refine (hsub.sum_le_sum fun q hq => ?_).trans hle
  obtain ⟨x, hx, rfl⟩ := List.mem_map.1 hq
  exact (hpoints x hx).nonneg

/-- The entries of an institution can be added up. -/
theorem exists_sum_entries (i : OrganizationId) :
    ∃ total, sumPoints (((credits.filter fun x => x.1 = i).map (·.2)).map CreatorPoints.points) =
        .ok total ∧ total.IsPoints ∧ total.toRat = creditsOf credits i := by
  have hmem := isPoints_entries hpoints i
  have hvalue : ((((credits.filter fun x => x.1 = i).map (·.2)).map CreatorPoints.points).map
      toRat).sum = creditsOf credits i := by
    rw [creditsOf, List.map_map, List.map_map]
    rfl
  obtain ⟨total, htotal, htotalPoints, htotalq⟩ :=
    exists_sumPoints (List.forall_mem_map.2 hmem) (hvalue.trans_le (creditsOf_le hpoints hle i))
  exact ⟨total, htotal, htotalPoints, htotalq.trans hvalue⟩

/-- An institution gets what its credits come to, unless that is nothing. -/
theorem exists_institutionPoints? (i : OrganizationId) :
    ∃ p?, institutionPoints? credits i = .ok p? ∧ (∀ p, p? = some p → p.Exact) ∧
      (p?.elim 0 fun p => p.points.toRat) = creditsOf credits i := by
  have hmem := isPoints_entries hpoints i
  have hpart := creditsOf_le hpoints hle i
  obtain ⟨total, htotal, htotalPoints, htotalq⟩ := exists_sum_entries hpoints hle i
  rw [institutionPoints?, htotal]
  by_cases hzero : total.isZero
  · refine ⟨none, ?_, ?_, ?_⟩
    · show Except.ok (if _ then _ else _) = _
      rw [if_pos hzero]
    · intro p hp
      cases hp
    · rw [Option.elim_none, ← htotalq, isZero_iff.1 hzero]
  · have hne : total.toRat ≠ 0 := fun h => hzero (isZero_iff.2 h)
    have hsum : total.toRat = (((credits.filter fun x => x.1 = i).map (·.2)).map
        fun x => x.points.toRat).sum := by
      rw [htotalq, creditsOf, List.map_map]
      rfl
    refine ⟨some ⟨i, roundPoints total, (credits.filter fun x => x.1 = i).map (·.2)⟩, ?_, ?_, ?_⟩
    · show Except.ok (if _ then _ else _) = _
      rw [if_neg hzero]
    · rintro p hp
      cases hp
      exact exact_roundPoints htotalPoints hne (htotalq.trans_le hpart) hmem hsum
    · rw [Option.elim_some, (roundPoints_of_isPoints htotalPoints (htotalq.trans_le hpart)).1,
        htotalq]

/-- All institutions get their points, and these come to what all credits come to. -/
theorem exists_institutions {ids : List OrganizationId} (hn : ids.Nodup)
    (hids : ∀ x ∈ credits, x.1 ∈ ids) :
    ∃ institutions, ids.mapM (institutionPoints? credits) = .ok institutions ∧
      (∀ p ∈ institutions.filterMap id, p.Exact) ∧
      ((institutions.filterMap id).map fun p => p.points.toRat).sum =
        (credits.map fun x => x.2.points.toRat).sum := by
  obtain ⟨institutions, hinstitutions, hall⟩ :=
    exists_mapM_eq_ok fun i (_ : i ∈ ids) => exists_institutionPoints? hpoints hle i
  refine ⟨institutions, hinstitutions, fun p hp => ?_, ?_⟩
  · have hp' : some p ∈ institutions := by simpa using hp
    obtain ⟨i, -, hexact, -⟩ := exists_of_mem_forall₂ hall hp'
    exact hexact p rfl
  · have hvalues : List.Forall₂ (· = ·)
        (institutions.map fun p? => p?.elim 0 fun p => p.points.toRat)
        (ids.map (creditsOf credits)) := by
      rw [List.forall₂_map_left_iff, List.forall₂_map_right_iff]
      exact hall.flip.imp fun p? i h => h.2
    rw [List.forall₂_eq_eq_eq] at hvalues
    rw [← sum_creditsOf hn hids, ← hvalues, sum_map_filterMap]

end

/-! ### The whole calculation -/

/-- As many credits as a machine word counts do not come to too much. -/
theorem sum_credits_le {is : List OrganizationId} {credits : List (OrganizationId × CreatorPoints)}
    (hall : ∀ x ∈ credits, IsCredit is x) (hlen : credits.length ≤ 2 ^ 64) :
    (credits.map fun x => x.2.points.toRat).sum ≤ pointsBound := by
  have hcard : (credits.map fun x => x.2.points.toRat).sum ≤
      (credits.map fun x => x.2.points.toRat).length • (12 : ℚ) := by
    refine List.sum_le_card_nsmul _ _ fun q hq => ?_
    obtain ⟨x, hx, rfl⟩ := List.mem_map.1 hq
    exact (hall x hx).2.2
  have hlen' : (credits.length : ℚ) ≤ 2 ^ 64 := by exact_mod_cast hlen
  rw [List.length_map, nsmul_eq_mul] at hcard
  unfold pointsBound
  linarith

/-- The total is the sum of the institutions' points, and not rounded. -/
theorem exists_total {ps : List InstitutionPoints} (hexact : ∀ p ∈ ps, p.Exact)
    (hle : (ps.map fun p => p.points.toRat).sum ≤ pointsBound) :
    ∃ total, sumPoints (ps.map InstitutionPoints.points) = .ok total ∧
      total.roundPoints.toRat = (ps.map fun p => p.points.toRat).sum := by
  have hvalues : ((ps.map InstitutionPoints.points).map toRat).sum =
      (ps.map fun p => p.points.toRat).sum := by
    rw [List.map_map]
    rfl
  obtain ⟨total, htotal, htotalPoints, htotalq⟩ := exists_sumPoints
    (List.forall_mem_map.2 fun p hp => (hexact p hp).points) (hvalues.trans_le hle)
  rw [hvalues] at htotalq
  obtain ⟨hround, -⟩ := roundPoints_of_isPoints htotalPoints (htotalq.trans_le hle)
  exact ⟨total, htotal, hround.trans htotalq⟩

theorem roundPoints_base_nonneg {t : InstanceType} {v : ScientificValue} {base : Decimal}
    (hbase : basePoints? t v = some base) : 0 ≤ base.roundPoints.toRat := by
  obtain ⟨b, -, -, hbq⟩ := toRat_basePoints? hbase
  have h0 : 0 ≤ base.toRat := by
    rw [hbq]
    positivity
  exact (isPoints_roundPoints h0).nonneg

theorem basePoints?_le_pointsBound {t : InstanceType} {v : ScientificValue} {base : Decimal}
    (hbase : basePoints? t v = some base) : base.toRat ≤ pointsBound := by
  obtain ⟨b, -, hb, hbq⟩ := toRat_basePoints? hbase
  have hb' : (b : ℚ) ≤ 80 := by exact_mod_cast hb
  rw [hbq]
  unfold pointsBound
  linarith

theorem toRat_roundPoints_basePoints? {t : InstanceType} {v : ScientificValue} {base : Decimal}
    (hbase : basePoints? t v = some base) : base.roundPoints.toRat = base.toRat := by
  obtain ⟨b, -, hb, hbq⟩ := toRat_basePoints? hbase
  have hpoints : base.IsPoints := ⟨b * 1000, by rw [hbq]; push_cast; ring⟩
  exact (roundPoints_of_isPoints hpoints (basePoints?_le_pointsBound hbase)).1

/-- What there is to be shared. -/
def PointCalculation.pool (c : PointCalculation) : ℚ :=
  c.basePoints.toRat * c.collaborationFactor.toRat

/-- A calculation gives its institutions the credits that settle the stakes, one for each, and nothing of
these is lost. -/
structure PointCalculation.Distributes (c : PointCalculation) (f : PublicationFacts) (h : Hierarchy)
    (credits : List (OrganizationId × CreatorPoints)) : Prop where
  stakes : credits.map stakeOf = f.stakes h
  settles : Settles f h c.pool credits
  points : ∀ x ∈ credits, x.2.points.IsPoints
  le : (credits.map fun x => x.2.points.toRat).sum ≤ pointsBound
  institutions : ∃ institutions,
    (institutionsOf h (f.sharers h)).mapM (institutionPoints? credits) = .ok institutions ∧
      c.institutions = institutions.filterMap id
  exact : c.Exact
  sum : (c.institutions.map fun p => p.points.toRat).sum =
    (credits.map fun x => x.2.points.toRat).sum

section

variable {f : PublicationFacts} {h : Hierarchy}

/-- Once all have their credits, these are distributed: the sums are exact, so that nothing more can
fail. -/
theorem exists_shareOut_of_credits {base share : Decimal}
    {credits : List (List (OrganizationId × CreatorPoints))}
    (hbase : basePoints? f.instanceType f.channel.scientificValue = some base)
    (hshare : creatorShare base (collaborationFactor (institutionsOf h (f.sharers h)).length)
      (f.sharers h).length = .ok share)
    (hcredits : (f.sharers h).mapM (fun c => c.credits h share) = .ok credits) :
    ∃ c, shareOut f h base (f.sharers h) = .ok c ∧ c.Distributes f h credits.flatten := by
  obtain ⟨h0, hshare11⟩ := share_bounds hbase _ hshare
  have hall := isCredit_of_credits h0 hshare11 hcredits
  have hstakes := map_stakeOf_credits hcredits
  have hlen : credits.flatten.length ≤ 2 ^ 64 := by
    have hle := PublicationFacts.card_resolvable_le f h
    have hfits := f.fits
    rw [← List.length_map, hstakes, PublicationFacts.length_stakes]
    omega
  have hpoints : ∀ x ∈ credits.flatten, x.2.points.IsPoints := fun x hx => (hall x hx).2.1
  have hle := sum_credits_le hall hlen
  obtain ⟨institutions, hinstitutions, hexact, hsum⟩ :=
    exists_institutions hpoints hle (nodup_institutionsOf h (f.sharers h)) fun x hx => (hall x hx).1
  obtain ⟨total, htotal, htotalq⟩ := exists_total hexact (hsum.trans_le hle)
  refine ⟨_, bind_eq_ok_iff.2 ⟨share, hshare, bind_eq_ok_iff.2 ⟨credits, hcredits,
    bind_eq_ok_iff.2 ⟨institutions, hinstitutions, bind_eq_ok_iff.2 ⟨total, htotal, rfl⟩⟩⟩⟩, ?_⟩
  exact {
    stakes := hstakes
    settles := by
      rw [PointCalculation.pool, toRat_roundPoints_basePoints? hbase]
      exact settles_of_credits hcredits hbase _ hshare
    points := hpoints
    le := hle
    institutions := ⟨institutions, hinstitutions, rfl⟩
    exact := ⟨hexact, htotalq, (htotalq.trans hsum).trans_le hle, roundPoints_base_nonneg hbase⟩
    sum := hsum }

/-- What is scored has been distributed. -/
theorem exists_distributes {e : PointEvaluation} (he : score f h = .ok e) :
    ∃ credits, e.calculation.Distributes f h credits := by
  obtain ⟨base, hbase, -, -, hresult, -, -⟩ := exists_of_score he
  obtain ⟨share, credits, -, -, hshare, hcredits, -⟩ := exists_of_shareOut hresult
  obtain ⟨c, hc, hdistributes⟩ := exists_shareOut_of_credits hbase hshare hcredits
  cases hresult.symm.trans hc
  exact ⟨credits.flatten, hdistributes⟩

/-- What is shared out exactly passes the check. -/
theorem score_of_shareOut (hnone : f.refusal? h = none) {base : Decimal}
    (hbase : basePoints? f.instanceType f.channel.scientificValue = some base) {c : PointCalculation}
    (hc : shareOut f h base (f.sharers h) = .ok c) (hexact : c.Exact) :
    score f h = .ok ⟨c, f.unresolved h⟩ := by
  obtain ⟨base', hbase', hcalc⟩ := exists_calculate_eq hnone
  cases hbase.symm.trans hbase'
  rw [score, hcalc, hc]
  show (c.check >>= fun _ => pure _) = _
  rw [PointCalculation.check_of_exact hexact]
  rfl

/-- Facts that are not refused earn points, if no count starts again from nothing. -/
theorem exists_score (hnone : f.refusal? h = none) (hcounted : f.Counted h) :
    ∃ e, score f h = .ok e ∧ e.calculation.Exact := by
  obtain ⟨base, hbase, -⟩ := exists_calculate_eq hnone
  obtain ⟨share, hshare⟩ :=
    exists_creatorShare hbase (institutionsOf h (f.sharers h)).length hcounted.sharers
  obtain ⟨h0, hshare11⟩ := share_bounds hbase _ hshare
  obtain ⟨credits, hcredits⟩ := exists_credits h0 hshare11 hcounted
  obtain ⟨c, hc, hdistributes⟩ := exists_shareOut_of_credits hbase hshare hcredits
  exact ⟨_, score_of_shareOut hnone hbase hc hdistributes.exact, hdistributes.exact⟩

/-- Facts are refused for a reason that lies in them, or they earn points, if 32 bits count the pairs in
the hierarchy. -/
theorem score_cases (f : PublicationFacts) (h : Hierarchy) (hcount : (f.resolvable h).card < 2 ^ 32) :
    (∃ r, f.refusal? h = some r ∧ score f h = .error (.invalidFacts r)) ∨
      f.refusal? h = none ∧ ∃ e, score f h = .ok e ∧ e.calculation.Exact := by
  rcases calculate_cases f h with ⟨r, hr, herr⟩ | ⟨base, hnone, hne, -, -⟩
  · left
    refine ⟨r, hr, ?_⟩
    rw [score, herr]
    rfl
  · exact .inr ⟨hnone, exists_score hnone (PublicationFacts.counted_of_lt hne hcount)⟩

/-- What cannot be shared out earns nothing. -/
theorem score_eq_error_of_shareOut (hnone : f.refusal? h = none) {err : PointError}
    (herr : ∀ base, basePoints? f.instanceType f.channel.scientificValue = some base →
      shareOut f h base (f.sharers h) = .error err) : score f h = .error err := by
  obtain ⟨base, hbase, hcalc⟩ := exists_calculate_eq hnone
  rw [score, hcalc, herr base hbase]
  rfl

/-- Facts that are not refused earn nothing if their creators are counted as nobody. -/
theorem score_eq_error_of_count32 (hnone : f.refusal? h = none)
    (hzero : count32 (f.sharers h).length = 0) :
    score f h = .error (.defect (.overflow .creatorShare)) := by
  refine score_eq_error_of_shareOut hnone fun base hbase => ?_
  exact bind_eq_error_iff.2
    (.inl (creatorShare_eq_error hbase (institutionsOf h (f.sharers h)).length hzero))

/-- Facts that are not refused earn nothing if the first of their creators gets no credits. -/
theorem score_eq_error_of_credits (hnone : f.refusal? h = none)
    (hcount : 0 < count32 (f.sharers h).length) {c : Creator} {cs : List Creator}
    (hsharers : f.sharers h = c :: cs) {err : PointError}
    (herr : ∀ share : Decimal, 0 ≤ share.toRat → share.toRat ≤ 11 → c.credits h share = .error err) :
    score f h = .error err := by
  refine score_eq_error_of_shareOut hnone fun base hbase => ?_
  obtain ⟨share, hshare⟩ := exists_creatorShare hbase (institutionsOf h (f.sharers h)).length hcount
  obtain ⟨h0, hle⟩ := share_bounds hbase _ hshare
  have hcredits : (f.sharers h).mapM (fun c => c.credits h share) = .error err := by
    rw [hsharers, List.mapM_cons]
    exact bind_eq_error_iff.2 (.inl (herr share h0 hle))
  exact bind_eq_error_iff.2 (.inr ⟨share, hshare, bind_eq_error_iff.2 (.inl hcredits)⟩)

end

end PublicationIndicator
