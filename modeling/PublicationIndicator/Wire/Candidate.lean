import PublicationIndicator.Candidate.View
import PublicationIndicator.Wire.Approval
import PublicationIndicator.Wire.Points

/-!
# PublicationIndicator.Wire.Candidate — candidates in documents
-/

namespace PublicationIndicator

open Decoder

namespace Candidate

/-- The candidate as an object. -/
def toJson (c : Candidate) : Json :=
  .object [
    ("id", c.id.toJson),
    ("publication_id", c.publication.toJson),
    ("applicable", .bool c.applicable),
    ("points", c.points.toJson),
    ("approvals", c.approvals.toJson Approval.toJson)]

/-- A candidate. -/
def decoder : Decoder Candidate :=
  record ["id", "publication_id", "applicable", "points", "approvals"] fun m =>
    mk <$> m.required "id" CandidateId.decoder
      <*> m.required "publication_id" PublicationId.decoder
      <*> m.required "applicable" bool
      <*> m.required "points" PointCalculation.decoder
      <*> m.required "approvals" (SortedMap.decoder .mk Approval.decoder)

end Candidate

namespace StoredCandidate

/-- The candidate and its version as an object. -/
def toJson (s : StoredCandidate) : Json :=
  .object [("candidate", s.candidate.toJson), ("version", .ofNat s.version)]

/-- A candidate with its version. -/
def decoder : Decoder StoredCandidate :=
  record ["candidate", "version"] fun m =>
    mk <$> m.required "candidate" Candidate.decoder <*> m.required "version" versionDecoder

end StoredCandidate

/-! ### Views -/

/-- What is shown of an institution, without the fields that there is nothing for. -/
def InstitutionView.toJson (v : InstitutionView) : Json :=
  .object ([("institution_id", v.institution.toJson), ("points", v.points.toJson),
      ("status", v.status.toJson)] ++
    fieldOf "assignee" Username.toJson v.assignee ++
    fieldOf "finalized_by" Username.toJson v.finalizedBy ++
    fieldOf "finalized_date" Instant.toJson v.finalizedDate ++
    fieldOf "reason" Json.string v.reason ++
    [("involved_organizations", v.involvedOrganizations.toJson OrganizationId.toJson)])

/-- What is shown of a candidate. -/
def CandidateView.toJson (v : CandidateView) : Json :=
  .object [
    ("candidate_id", v.candidate.toJson),
    ("version", .ofNat v.version),
    ("applicable", .bool v.applicable),
    ("global_status", v.globalStatus.toJson),
    ("total_points", v.totalPoints.toJson),
    ("is_international_collaboration", .bool v.isInternationalCollaboration),
    ("institutions", .array (v.institutions.map InstitutionView.toJson))]

end PublicationIndicator
