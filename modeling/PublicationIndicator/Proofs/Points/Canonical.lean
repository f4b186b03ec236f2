import PublicationIndicator.Json.Writer
import PublicationIndicator.Proofs.Points.Conservation
import PublicationIndicator.Wire.Points

/-!
# PublicationIndicator.Proofs.Points.Canonical — equal calculations are written alike

`==` compares the numbers of calculations by value, and a number shows its digits when it is written.
All points of a score have the one form that `Decimal.IsCanonical` describes, however they were divided,
added up and rounded (`isCanonical_of_score`).  So scores that are equal by value have the same digits
too, and the same text (`compact_eq_of_score`).
-/

namespace PublicationIndicator

open Decimal

/-! ### Equal by value -/

/-- Lists of equal elements look the same to a function that does not tell equal elements apart. -/
theorem map_eq_of_beq {α β : Type} [BEq α] {f : α → β} {as bs : List α}
    (hf : ∀ a ∈ as, ∀ b ∈ bs, (a == b) = true → f a = f b) (h : (as == bs) = true) :
    as.map f = bs.map f := by
  induction as generalizing bs with
  | nil =>
    cases bs with
    | nil => rfl
    | cons b bs => cases h
  | cons a as ih =>
    cases bs with
    | nil => cases h
    | cons b bs =>
      obtain ⟨hab, hrest⟩ := (Bool.and_eq_true _ _).mp h
      have hhead := hf a List.mem_cons_self b List.mem_cons_self hab
      have htail := ih (fun a ha b hb => hf a (List.mem_cons_of_mem _ ha) b (List.mem_cons_of_mem _ hb))
        hrest
      rw [List.map_cons, List.map_cons, hhead, htail]

theorem CreatorPoints.beq_iff {x y : CreatorPoints} : (x == y) = true ↔
    x.creator = y.creator ∧ x.affiliation = y.affiliation ∧ (x.points == y.points) = true := by
  change ((x.creator == y.creator) && ((x.affiliation == y.affiliation) && (x.points == y.points))) =
    true ↔ _
  simp only [Bool.and_eq_true, beq_iff_eq]

theorem InstitutionPoints.beq_iff {p q : InstitutionPoints} : (p == q) = true ↔
    p.institution = q.institution ∧ (p.points == q.points) = true ∧
      (p.entries == q.entries) = true := by
  change ((p.institution == q.institution) && ((p.points == q.points) && (p.entries == q.entries))) =
    true ↔ _
  simp only [Bool.and_eq_true, beq_iff_eq]

theorem PointCalculation.beq_iff {c d : PointCalculation} : (c == d) = true ↔
    c.instanceType = d.instanceType ∧ c.channel = d.channel ∧
      c.isInternationalCollaboration = d.isInternationalCollaboration ∧
      (c.collaborationFactor == d.collaborationFactor) = true ∧
      (c.basePoints == d.basePoints) = true ∧ c.creatorShareCount = d.creatorShareCount ∧
      (c.totalPoints == d.totalPoints) = true ∧ (c.institutions == d.institutions) = true := by
  change ((c.instanceType == d.instanceType) && ((c.channel == d.channel) &&
    ((c.isInternationalCollaboration == d.isInternationalCollaboration) &&
    ((c.collaborationFactor == d.collaborationFactor) && ((c.basePoints == d.basePoints) &&
    ((c.creatorShareCount == d.creatorShareCount) && ((c.totalPoints == d.totalPoints) &&
    (c.institutions == d.institutions)))))))) = true ↔ _
  simp only [Bool.and_eq_true, beq_iff_eq]

/-! ### The form of points -/

/-- The form in which points are kept: not below zero, four digits behind the point. -/
structure Decimal.IsCanonical (d : Decimal) : Prop where
  nonneg : 0 ≤ d.toRat
  scale : d.scale = 4

/-- All points of an institution are in their form. -/
structure InstitutionPoints.IsCanonical (p : InstitutionPoints) : Prop where
  points : p.points.IsCanonical
  entries : ∀ x ∈ p.entries, x.points.IsCanonical

/-- All points of a calculation are in their form, and the factor is in one of its two. -/
structure PointCalculation.IsCanonical (c : PointCalculation) : Prop where
  base : c.basePoints.IsCanonical
  total : c.totalPoints.IsCanonical
  institutions : ∀ p ∈ c.institutions, p.IsCanonical
  factor : c.collaborationFactor = .one ∨ c.collaborationFactor = .ofTenths 13

/-- Points in their form are equal if they have the same value. -/
theorem Decimal.IsCanonical.eq_of_beq {d d' : Decimal} (hd : d.IsCanonical) (hd' : d'.IsCanonical)
    (h : (d == d') = true) : d = d' :=
  eq_of_toRat_eq (beq_iff_toRat_eq.1 h) (hd.scale.trans hd'.scale.symm)

theorem InstitutionPoints.IsCanonical.eq_of_beq {p q : InstitutionPoints} (hp : p.IsCanonical)
    (hq : q.IsCanonical) (h : (p == q) = true) : p = q := by
  obtain ⟨hinstitution, hpoints, hentries⟩ := InstitutionPoints.beq_iff.1 h
  have hlist : p.entries.map id = q.entries.map id := by
    refine map_eq_of_beq (fun x hx y hy hxy => ?_) hentries
    obtain ⟨hcreator, haffiliation, hxy⟩ := CreatorPoints.beq_iff.1 hxy
    have hvalue := (hp.entries x hx).eq_of_beq (hq.entries y hy) hxy
    cases x
    cases y
    cases hcreator
    cases haffiliation
    cases hvalue
    rfl
  rw [List.map_id, List.map_id] at hlist
  have hvalue := hp.points.eq_of_beq hq.points hpoints
  cases p
  cases q
  cases hinstitution
  cases hvalue
  cases hlist
  rfl

/-- The two factors are different numbers. -/
theorem factor_eq_of_beq {d d' : Decimal} (hd : d = .one ∨ d = .ofTenths 13)
    (hd' : d' = .one ∨ d' = .ofTenths 13) (h : (d == d') = true) : d = d' := by
  rcases hd with rfl | rfl <;> rcases hd' with rfl | rfl
  · rfl
  · exact absurd h (by decide)
  · exact absurd h (by decide)
  · rfl

/-- Calculations in their form are equal if they have the same values. -/
theorem PointCalculation.IsCanonical.eq_of_beq {c d : PointCalculation} (hc : c.IsCanonical)
    (hd : d.IsCanonical) (h : (c == d) = true) : c = d := by
  obtain ⟨htype, hchannel, hcollaboration, hfactor, hbase, hcount, htotal, hinstitutions⟩ :=
    PointCalculation.beq_iff.1 h
  have hlist : c.institutions.map id = d.institutions.map id :=
    map_eq_of_beq (fun p hp q hq => (hc.institutions p hp).eq_of_beq (hd.institutions q hq)) hinstitutions
  rw [List.map_id, List.map_id] at hlist
  have hfactor := factor_eq_of_beq hc.factor hd.factor hfactor
  have hbase := hc.base.eq_of_beq hd.base hbase
  have htotal := hc.total.eq_of_beq hd.total htotal
  cases c
  cases d
  dsimp only at *
  subst htype hchannel hcollaboration hfactor hbase hcount htotal hlist
  rfl

/-! ### Scores have it -/

/-- Rounding leads to the form, unless the result is out of all proportion. -/
theorem Decimal.isCanonical_roundPoints {d : Decimal} (h0 : 0 ≤ d.roundPoints.toRat)
    (hle : d.roundPoints.toRat ≤ pointsBound) : d.roundPoints.IsCanonical := by
  have hunits : (roundHalfAway (d.toRat * 10 ^ 4) : ℚ) = d.roundPoints.toRat * 10 ^ 4 := by
    rw [toRat_roundPoints, div_mul_cancel₀ _ (by positivity)]
  have hlt : |(roundHalfAway (d.toRat * 10 ^ 4) : ℚ)| < capacity := by
    rw [hunits, abs_of_nonneg (by positivity)]
    unfold pointsBound at hle
    unfold capacity
    norm_num
    linarith
  exact ⟨h0, scale_roundPoints (by exact_mod_cast hlt)⟩

/-- No entry is worth more than its institution. -/
theorem InstitutionPoints.Exact.entry_le {p : InstitutionPoints} (hp : p.Exact) {x : CreatorPoints}
    (hx : x ∈ p.entries) : x.points.toRat ≤ p.points.toRat := by
  have hnonneg : ∀ q ∈ p.entries.map fun x => x.points.toRat, 0 ≤ q := by
    intro q hq
    obtain ⟨y, hy, rfl⟩ := List.mem_map.1 hq
    exact (hp.entries y hy).nonneg
  rw [hp.sum]
  exact List.single_le_sum hnonneg _ (List.mem_map_of_mem hx)

/-- An institution that is shared out to has all its points in their form. -/
theorem InstitutionPoints.Exact.isCanonical {f : PublicationFacts} {h : Hierarchy} {base : Decimal}
    {cs : List Creator} {c : PointCalculation} (hc : shareOut f h base cs = .ok c)
    {p : InstitutionPoints} (hexact : p.Exact) (hp : p ∈ c.institutions) : p.IsCanonical := by
  refine ⟨⟨hexact.points.nonneg, hexact.scale⟩, fun x hx => ?_⟩
  have h0 := (hexact.entries x hx).nonneg
  have hle := (hexact.entry_le hx).trans hexact.le
  obtain ⟨_, _, _, _, _, _, _, _, rfl⟩ := exists_of_mem_entries hc hp hx
  exact isCanonical_roundPoints h0 hle

/-- All points of a score are in their form, also where they come to nothing. -/
theorem isCanonical_of_score {f : PublicationFacts} {h : Hierarchy} {e : PointEvaluation}
    (he : score f h = .ok e) : e.calculation.IsCanonical := by
  obtain ⟨base, hbase, -, -, hresult, -, -⟩ := exists_of_score he
  obtain ⟨_, _, _, total, -, -, -, -, hcalc⟩ := exists_of_shareOut hresult
  obtain ⟨credits, hc⟩ := exists_distributes he
  have htotal : e.calculation.totalPoints = total.roundPoints := by rw [hcalc]
  have htotal0 : 0 ≤ e.calculation.totalPoints.toRat := by
    rw [hc.exact.total]
    exact sum_nonneg_of_exact hc.exact.institutions
  have htotalLe := hc.exact.le
  rw [htotal] at htotal0 htotalLe
  exact {
    base := by
      rw [hcalc]
      refine isCanonical_roundPoints (roundPoints_base_nonneg hbase) ?_
      rw [toRat_roundPoints_basePoints? hbase]
      exact basePoints?_le_pointsBound hbase
    total := by
      rw [htotal]
      exact isCanonical_roundPoints htotal0 htotalLe
    institutions := fun p hp => (hc.exact.institutions p hp).isCanonical hresult hp
    factor := by
      rw [hcalc]
      unfold collaborationFactor
      dsimp only
      split
      · exact .inr rfl
      · exact .inl rfl }

/-- All points of a score are not below zero and have just four digits behind the point.  Scores that are
equal by value are written as the same text, whatever facts and trees they come from. -/
theorem compact_eq_of_score {f : PublicationFacts} {h : Hierarchy} {e : PointEvaluation}
    (he : score f h = .ok e) :
    (e.calculation.basePoints.IsCanonical ∧ e.calculation.totalPoints.IsCanonical ∧
      ∀ p ∈ e.calculation.institutions, p.points.IsCanonical ∧
        ∀ x ∈ p.entries, x.points.IsCanonical) ∧
    ∀ {f' : PublicationFacts} {h' : Hierarchy} {e' : PointEvaluation}, score f' h' = .ok e' →
      (e.calculation == e'.calculation) = true →
        e.calculation.toJson.compact = e'.calculation.toJson.compact ∧
        e.calculation.toJson.pretty = e'.calculation.toJson.pretty := by
  have hc := isCanonical_of_score he
  refine ⟨⟨hc.base, hc.total, fun p hp => ?_⟩, fun he' hbeq => ?_⟩
  · exact ⟨(hc.institutions p hp).points, (hc.institutions p hp).entries⟩
  · rw [hc.eq_of_beq (isCanonical_of_score he') hbeq]
    exact ⟨rfl, rfl⟩

/-- Two publications with the same credits: the second one has an affiliation that is left out, and
other trees. -/
theorem compact_eq_of_score_left_out :
    let id (s : String) : OrganizationId := ⟨s⟩
    let h : Hierarchy := ⟨⟨[id "a.1", id "a", id "b"], [(id "a.1", id "a")]⟩,
      [.childOf (id "a.1") (id "a"), .blank (id "b")], by decide⟩
    let h' : Hierarchy := ⟨⟨[id "b", id "a.2", id "a", id "a.1"],
      [(id "a.2", id "a"), (id "a.1", id "a")]⟩,
      [.blank (id "b"), .childOf (id "a.2") (id "a"), .childOf (id "a.1") (id "a")], by decide⟩
    let f : PublicationFacts := ⟨⟨"p"⟩, .academicMonograph, ⟨"c", .publisher, .levelTwo⟩,
      [⟨.verified "x", [id "a.1"]⟩, ⟨.verified "y", [id "b", id "a"]⟩, ⟨.unverified "z", [id "b"]⟩],
      by decide⟩
    let f' : PublicationFacts := ⟨⟨"q"⟩, .academicMonograph, ⟨"c", .publisher, .levelTwo⟩,
      [⟨.verified "x", [id "a.1", id "?"]⟩, ⟨.verified "y", [id "b", id "a"]⟩,
        ⟨.unverified "z", [id "b", id "b"]⟩], by decide⟩
    ∃ e e', score f h = .ok e ∧ score f' h' = .ok e' ∧ e.calculation.basePoints.IsCanonical ∧
      (e.calculation == e'.calculation) = true ∧
      e.calculation.toJson.compact = e'.calculation.toJson.compact := by
  intro id h h' f f'
  have hboth : ((score f h).toOption.bind fun e => (score f' h').toOption.map
      fun e' => e.calculation == e'.calculation) = some true := by decide +kernel
  obtain ⟨e, he, hboth⟩ := Option.bind_eq_some_iff.1 hboth
  obtain ⟨e', he', hequal⟩ := Option.map_eq_some_iff.1 hboth
  rw [toOption_eq_some_iff] at he he'
  obtain ⟨⟨hbase, -, -⟩, htext⟩ := compact_eq_of_score he
  exact ⟨e, e', he, he', hbase, hequal, (htext he' hequal).1⟩

end PublicationIndicator
