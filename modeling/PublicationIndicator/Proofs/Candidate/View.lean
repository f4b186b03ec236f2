import PublicationIndicator.Candidate.View
import PublicationIndicator.Proofs.Approval.Consensus
import PublicationIndicator.Proofs.Candidate.Coherence
import PublicationIndicator.Proofs.Points.Accounting
import PublicationIndicator.Proofs.Points.Failures

/-!
# PublicationIndicator.Proofs.Candidate.View — what readers are shown is complete

A view is made of points and approvals, and an institution without an approval would silently be missing
from it.  `StoredCandidate.ShownInFull` says that none is: each institution of the points and each
approval is listed once, and what is listed comes to the total and to the common status.  It holds where
approvals fit the points and these are in order (`Candidate.Presentable`, `shownInFull`), which new
candidates are and events keep.
-/

namespace PublicationIndicator

/-! ### What is shown -/

/-- The entry shows these points and that approval of one institution. -/
structure InstitutionView.Shows (v : InstitutionView) (p : InstitutionPoints) (a : Approval) : Prop where
  pointsOf : v.institution = p.institution
  approvalOf : v.institution = a.institution
  points : v.points = p.points
  status : v.status = a.status
  assignee : v.assignee = a.assignee
  finalizedBy : v.finalizedBy = a.finalizedBy
  finalizedDate : v.finalizedDate = a.finalizedDate
  reason : v.reason = a.reason
  involved : v.involvedOrganizations = a.involvedOrganizations
  /-- They are involved in the points that are shown. -/
  involvedNow : v.involvedOrganizations = p.involvedOrganizations

/-- The view of a candidate leaves nothing out. -/
structure StoredCandidate.ShownInFull (s : StoredCandidate) : Prop where
  /-- There is one entry for each approval, and they are in order. -/
  approvals : s.view.institutions.map InstitutionView.institution = s.candidate.approvals.keys
  /-- There is one entry for each institution of the points, and they are in order. -/
  points : s.view.institutions.map InstitutionView.institution = s.candidate.points.institutionIds
  ascending : s.view.institutions.Pairwise fun v v' => key v.institution < key v'.institution
  shows : ∀ v ∈ s.view.institutions, ∃ p ∈ s.candidate.points.institutions, ∃ a,
    s.candidate.approvals.get? v.institution = some a ∧ v.Shows p a
  total : s.view.totalPoints = s.candidate.points.totalPoints ∧
    s.view.totalPoints.toRat = (s.view.institutions.map fun v => v.points.toRat).sum
  status : s.view.globalStatus = Approvals.consensus (s.view.institutions.map InstitutionView.status)

/-! ### Points in order -/

/-- The institutions stand in order, and their points come to the total. -/
structure PointCalculation.InOrder (c : PointCalculation) : Prop where
  ascending : c.institutionIds.Pairwise (fun i j => key i < key j)
  total : c.totalPoints.toRat = (c.institutions.map fun p => p.points.toRat).sum

theorem PointCalculation.InOrder.nodup {c : PointCalculation} (hc : c.InOrder) :
    c.institutionIds.Nodup :=
  SortedSet.nodup_toList ⟨c.institutionIds, hc.ascending⟩

theorem inOrder_of_score {f : PublicationFacts} {h : Hierarchy} {e : PointEvaluation}
    (he : score f h = .ok e) : e.calculation.InOrder := by
  obtain ⟨credits, hc⟩ := exists_distributes he
  exact ⟨hc.ascending, hc.exact.total⟩

theorem inOrder_of_scoreThrough {provider : OrganizationProvider} {f : PublicationFacts}
    {e : PointEvaluation} (he : scoreThrough provider f = .ok e) : e.calculation.InOrder := by
  obtain ⟨e', he', rfl⟩ := exists_score_of_scoreThrough he
  show e'.calculation.InOrder
  exact inOrder_of_score he'

namespace Candidate

/-- Approvals fit the points, and these are in order. -/
structure Presentable (c : Candidate) : Prop where
  coherent : c.Coherent
  points : c.points.InOrder

variable {c c' : Candidate} {points : PointCalculation}

theorem presentable_create (publication : PublicationId) (hp : points.InOrder) :
    (create publication points).Presentable :=
  ⟨coherent_create publication hp.nodup, hp⟩

/-- Events keep it, if new points are in order. -/
theorem presentable_apply {e : CandidateEvent} (hc : c.Presentable)
    (he : ∀ points, e = .pointsCalculated points → points.InOrder) (h : c.apply e = .ok c') :
    c'.Presentable := by
  cases e with
  | pointsCalculated points =>
    cases h
    have hp := he points rfl
    exact ⟨coherent_recalculate hp.nodup hc.coherent.institution hc.coherent.fields, hp⟩
  | notApplicable =>
    cases h
    exact ⟨⟨hc.coherent.keys, hc.coherent.institution, hc.coherent.involved, hc.coherent.fields⟩,
      hc.points⟩
  | approval r time =>
    have hcoherent := coherent_review hc.coherent h
    obtain ⟨-, as, -, rfl⟩ := review_eq_ok_iff.1 h
    exact ⟨hcoherent, hc.points⟩

/-- Approvals stand in the order of the points. -/
theorem Presentable.keys_eq (hc : c.Presentable) : c.approvals.keys = c.points.institutionIds := by
  have hsets : (⟨c.approvals.keys, c.approvals.ascending_keys⟩ : SortedSet OrganizationId) =
      ⟨c.points.institutionIds, hc.points.ascending⟩ :=
    SortedSet.ext_mem hc.coherent.keys
  exact congrArg SortedSet.toList hsets

end Candidate

/-! ### Views -/

/-- Where each element gives a result, no element is skipped. -/
theorem forall₂_filterMap {α β : Type} {f : α → Option β} {l : List α}
    (h : ∀ a ∈ l, ∃ b, f a = some b) : List.Forall₂ (fun b a => f a = some b) (l.filterMap f) l := by
  induction l with
  | nil => exact .nil
  | cons a l ih =>
    obtain ⟨⟨b, hb⟩, hl⟩ := List.forall_mem_cons.1 h
    rw [List.filterMap_cons_some hb]
    exact .cons hb (ih hl)

namespace StoredCandidate

variable {s : StoredCandidate} (hc : s.candidate.Presentable)
include hc

/-- The view has an entry for each institution of the points, in their order. -/
theorem forall₂_view : List.Forall₂
    (fun v p => ∃ a, s.candidate.approvals.get? p.institution = some a ∧ v = .of p a)
    s.view.institutions s.candidate.points.institutions := by
  have hall : ∀ p ∈ s.candidate.points.institutions, ∃ v,
      (s.candidate.approvals.get? p.institution).map (InstitutionView.of p) = some v := by
    intro p hp
    have hkey := (hc.coherent.keys p.institution).2 (List.mem_map_of_mem hp)
    obtain ⟨a, ha⟩ := SortedMap.mem_keys_iff.1 hkey
    exact ⟨.of p a, by rw [ha]; rfl⟩
  refine (forall₂_filterMap hall).imp fun v p hv => ?_
  obtain ⟨a, ha, rfl⟩ := Option.map_eq_some_iff.1 hv
  exact ⟨a, ha, rfl⟩

theorem map_institution_view :
    s.view.institutions.map InstitutionView.institution = s.candidate.points.institutionIds := by
  rw [PointCalculation.institutionIds, ← List.forall₂_eq_eq_eq, List.forall₂_map_left_iff,
    List.forall₂_map_right_iff]
  refine (forall₂_view hc).imp fun v p hv => ?_
  obtain ⟨a, -, rfl⟩ := hv
  rfl

theorem map_points_view : s.view.institutions.map (fun v => v.points.toRat) =
    s.candidate.points.institutions.map fun p => p.points.toRat := by
  rw [← List.forall₂_eq_eq_eq, List.forall₂_map_left_iff, List.forall₂_map_right_iff]
  refine (forall₂_view hc).imp fun v p hv => ?_
  obtain ⟨a, -, rfl⟩ := hv
  rfl

/-- An entry shows the points and the approval of its institution. -/
theorem exists_shows {v : InstitutionView} (hv : v ∈ s.view.institutions) :
    ∃ p ∈ s.candidate.points.institutions, ∃ a,
      s.candidate.approvals.get? v.institution = some a ∧ v.Shows p a := by
  obtain ⟨p, hp, a, ha, rfl⟩ := exists_of_mem_forall₂ (forall₂_view hc).flip hv
  refine ⟨p, hp, a, ha, ?_⟩
  exact {
    pointsOf := rfl
    approvalOf := (hc.coherent.institution _ a ha).symm
    points := rfl
    status := rfl
    assignee := rfl
    finalizedBy := rfl
    finalizedDate := rfl
    reason := rfl
    involved := rfl
    involvedNow := hc.coherent.involved _ a ha p hp rfl }

/-- The statuses that are listed are those of the approvals. -/
theorem mem_map_status_view {t : ApprovalStatus} : t ∈ s.view.institutions.map InstitutionView.status ↔
    t ∈ s.candidate.approvals.values.map Approval.status := by
  rw [Approvals.mem_statuses_iff, List.mem_map]
  constructor
  · rintro ⟨v, hv, rfl⟩
    obtain ⟨p, -, a, ha, hshows⟩ := exists_shows hc hv
    exact ⟨v.institution, a, ha, hshows.status.symm⟩
  · rintro ⟨i, a, ha, rfl⟩
    have hi : i ∈ s.view.institutions.map InstitutionView.institution := by
      rw [map_institution_view hc, ← hc.keys_eq]
      exact SortedMap.mem_keys_iff.2 ⟨a, ha⟩
    obtain ⟨v, hv, rfl⟩ := List.mem_map.1 hi
    obtain ⟨p, -, a', ha', hshows⟩ := exists_shows hc hv
    rw [ha] at ha'
    cases ha'
    exact ⟨v, hv, hshows.status⟩

/-- Nothing is left out. -/
theorem shownInFull : s.ShownInFull where
  approvals := (map_institution_view hc).trans hc.keys_eq.symm
  points := map_institution_view hc
  ascending := by
    have hascending := hc.points.ascending
    rwa [← map_institution_view hc, List.pairwise_map] at hascending
  shows := fun _ => exists_shows hc
  total := ⟨rfl, hc.points.total.trans (congrArg List.sum (map_points_view hc).symm)⟩
  status := Approvals.consensus_congr fun _ => (mem_map_status_view hc).symm

end StoredCandidate

end PublicationIndicator
