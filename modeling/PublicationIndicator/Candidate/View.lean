import PublicationIndicator.Candidate.Store

/-!
# PublicationIndicator.Candidate.View — what readers are shown of a candidate

A view lists the institutions that earn points, each with what its approval says.
-/

namespace PublicationIndicator

/-- An institution's points and its approval. -/
structure InstitutionView where
  institution : OrganizationId
  points : Decimal
  status : ApprovalStatus
  assignee : Option Username
  finalizedBy : Option Username
  finalizedDate : Option Instant
  reason : Option String
  involvedOrganizations : SortedSet OrganizationId
deriving BEq

/-- A candidate as readers are shown it. -/
structure CandidateView where
  candidate : CandidateId
  version : Nat
  applicable : Bool
  globalStatus : GlobalStatus
  totalPoints : Decimal
  isInternationalCollaboration : Bool
  institutions : List InstitutionView
deriving BEq

/-- What is shown of an institution with these points and that approval. -/
def InstitutionView.of (p : InstitutionPoints) (a : Approval) : InstitutionView where
  institution := p.institution
  points := p.points
  status := a.status
  assignee := a.assignee
  finalizedBy := a.finalizedBy
  finalizedDate := a.finalizedDate
  reason := a.reason
  involvedOrganizations := a.involvedOrganizations

/-- What is shown of a candidate; institutions without an approval are left out. -/
def StoredCandidate.view (s : StoredCandidate) : CandidateView where
  candidate := s.candidate.id
  version := s.version
  applicable := s.candidate.applicable
  globalStatus := s.candidate.globalStatus
  totalPoints := s.candidate.points.totalPoints
  isInternationalCollaboration := s.candidate.points.isInternationalCollaboration
  institutions := s.candidate.points.institutions.filterMap fun p =>
    (s.candidate.approvals.get? p.institution).map (.of p)

end PublicationIndicator
