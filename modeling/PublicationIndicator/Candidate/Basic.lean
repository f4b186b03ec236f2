import PublicationIndicator.Approval.Consensus
import PublicationIndicator.Points.Calculation

/-!
# PublicationIndicator.Candidate.Basic — a publication under review

A candidate joins the points of a publication with the approvals of the institutions that earn them.
New points keep what institutions have decided already, give new institutions an approval of their own
and drop the approvals of those without points.
-/

namespace PublicationIndicator

/-- A publication's points and the approvals of its institutions. -/
structure Candidate where
  id : CandidateId
  publication : PublicationId
  /-- Is the publication still one that can earn points? -/
  applicable : Bool
  points : PointCalculation
  approvals : Approvals
deriving BEq, ReflBEq

/-- What may happen to a candidate. -/
inductive CandidateEvent where
  | pointsCalculated (points : PointCalculation)
  | approval (request : ApprovalRequest) (time : Instant)
  | notApplicable

/-- Why an event is refused. -/
inductive CandidateError where
  | approval (e : ApprovalError)
  | notApplicable (id : CandidateId)
deriving DecidableEq

/-- The refusal in words. -/
def CandidateError.message : CandidateError → String
  | approval e => e.message
  | notApplicable id => s!"candidate {id} is not applicable for approval"

/-! ### Approvals and points -/

namespace Approvals

/-- The approval of an institution with points: the one that it has, with the organizations that are
involved now, or a fresh one. -/
def following (as : Approvals) (p : InstitutionPoints) : Approval :=
  match as.get? p.institution with
  | some a => { a with involvedOrganizations := p.involvedOrganizations }
  | none => .fresh p.institution p.involvedOrganizations

/-- The approvals of the institutions that earn points. -/
def reconcile (as : Approvals) (points : PointCalculation) : Approvals :=
  .ofList (points.institutions.map fun p => (p.institution, as.following p))

end Approvals

namespace Candidate

/-- The candidate of a publication when its points are first known. -/
def create (publication : PublicationId) (points : PointCalculation) : Candidate where
  id := publication.candidate
  publication := publication
  applicable := true
  points := points
  approvals := Approvals.reconcile .empty points

/-! ### Events -/

/-- The candidate with new points. -/
def recalculate (c : Candidate) (points : PointCalculation) : Candidate :=
  { c with applicable := true, points := points, approvals := c.approvals.reconcile points }

/-- The candidate of a publication that can earn no points. -/
def markNotApplicable (c : Candidate) : Candidate := { c with applicable := false }

/-- Carries out a request on an approval of the candidate. -/
def review (c : Candidate) (r : ApprovalRequest) (time : Instant) :
    Except CandidateError Candidate :=
  if c.applicable then
    match c.approvals.apply r time with
    | .error e => .error (.approval e)
    | .ok as => .ok { c with approvals := as }
  else .error (.notApplicable c.id)

/-- The candidate after an event. -/
def apply (c : Candidate) : CandidateEvent → Except CandidateError Candidate
  | .pointsCalculated points => .ok (c.recalculate points)
  | .approval r time => c.review r time
  | .notApplicable => .ok c.markNotApplicable

/-- What the institutions' approvals come to. -/
def globalStatus (c : Candidate) : GlobalStatus := c.approvals.globalStatus

/-- The candidate with every approval normalized. -/
def normalized (c : Candidate) : Candidate := { c with approvals := c.approvals.normalized }

end Candidate

end PublicationIndicator
