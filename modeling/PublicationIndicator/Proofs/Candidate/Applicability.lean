import PublicationIndicator.Proofs.Candidate.Recalculation
import PublicationIndicator.Proofs.Points.Canonical

/-!
# PublicationIndicator.Proofs.Candidate.Applicability — marking a candidate and taking the mark back

A candidate whose publication can earn no points keeps its points and approvals under the mark.  The
approvals of a candidate are always those that its points make of them (`Candidate.Reconciled`), so
points that are equal to its own change nothing but the mark (`recalculate_of_beq`).
-/

namespace PublicationIndicator

/-! ### Equal points -/

/-- Equal points are those of one institution through the same affiliations. -/
theorem InstitutionPoints.eq_of_beq {p q : InstitutionPoints} (h : (p == q) = true) :
    p.institution = q.institution ∧ p.involvedOrganizations = q.involvedOrganizations := by
  obtain ⟨hinstitution, -, hentries⟩ := InstitutionPoints.beq_iff.1 h
  have haffiliations : p.entries.map CreatorPoints.affiliation =
      q.entries.map CreatorPoints.affiliation :=
    map_eq_of_beq (fun x _ y _ hxy => (CreatorPoints.beq_iff.1 hxy).2.1) hentries
  exact ⟨hinstitution, by rw [involvedOrganizations, involvedOrganizations, hinstitution, haffiliations]⟩

/-- It does not matter which of two equal calculations approvals are reconciled with. -/
theorem Approvals.reconcile_of_beq (as : Approvals) {points points' : PointCalculation}
    (h : (points == points') = true) : as.reconcile points = as.reconcile points' := by
  obtain ⟨-, -, -, -, -, -, -, hinstitutions⟩ := PointCalculation.beq_iff.1 h
  have hmap : points.institutions.map (fun p => (p.institution, as.following p)) =
      points'.institutions.map fun p => (p.institution, as.following p) := by
    refine map_eq_of_beq (fun p _ q _ hpq => ?_) hinstitutions
    obtain ⟨hinstitution, hinvolved⟩ := InstitutionPoints.eq_of_beq hpq
    rw [following, following, hinstitution, hinvolved]
  rw [reconcile, reconcile, hmap]

namespace Candidate

/-! ### Approvals that go with the points -/

/-- The approvals are what the points make of them. -/
def Reconciled (c : Candidate) : Prop := c.approvals.reconcile c.points = c.approvals

variable {c c' : Candidate} {points : PointCalculation}

theorem reconciled_create (publication : PublicationId) (points : PointCalculation) :
    (create publication points).Reconciled :=
  Approvals.reconcile_reconcile _ _

/-- No event makes approvals and points differ. -/
theorem reconciled_apply {e : CandidateEvent} (hc : c.Reconciled) (h : c.apply e = .ok c') :
    c'.Reconciled := by
  cases e with
  | pointsCalculated points =>
    cases h
    exact Approvals.reconcile_reconcile _ _
  | notApplicable =>
    cases h
    exact hc
  | approval r time =>
    obtain ⟨-, as, has, rfl⟩ := review_eq_ok_iff.1 h
    obtain ⟨a, a', ha, ha', rfl⟩ := Approvals.apply_eq_ok_iff.1 has
    exact Approvals.reconcile_insert hc ha (Approval.frame_apply ha').2

/-- Points equal to those of the candidate replace them, and change nothing else but the mark. -/
theorem recalculate_of_beq (hc : c.Reconciled) (h : (points == c.points) = true) :
    c.recalculate points = { c with applicable := true, points := points } := by
  rw [recalculate, Approvals.reconcile_of_beq _ h, hc]

theorem beq_with_points (h : (points == c.points) = true) :
    ({ c with points := points } == c) = true := by
  change ((c.id == c.id) && ((c.publication == c.publication) && ((c.applicable == c.applicable) &&
    ((points == c.points) && (c.approvals == c.approvals))))) = true
  simp [h]

/-! ### Marked candidates -/

/-- Only a mark leads to a marked candidate. -/
theorem apply_eq_marked {e : CandidateEvent} (h : c.apply e = .ok c') (hc' : c'.applicable = false) :
    c' = c.markNotApplicable := by
  cases e with
  | pointsCalculated points =>
    cases h
    cases hc'
  | notApplicable =>
    cases h
    rfl
  | approval r time =>
    obtain ⟨happlicable, as, -, rfl⟩ := review_eq_ok_iff.1 h
    rw [happlicable] at hc'
    cases hc'

/-- No request is carried out on a marked candidate. -/
theorem apply_approval_of_marked (hc : c.applicable = false) (r : ApprovalRequest) (time : Instant) :
    c.apply (.approval r time) = .error (.notApplicable c.id) := by
  change c.review r time = _
  rw [review, hc]
  rfl

end Candidate

end PublicationIndicator
