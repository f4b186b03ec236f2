import PublicationIndicator.Decimal.Text
import PublicationIndicator.Points.Calculation
import PublicationIndicator.Text.Quoted

/-!
# PublicationIndicator.Report.Score — the points of a publication for people to read
-/

namespace PublicationIndicator.Report

/-- The reason for an exclusion, with its detail in quotes. -/
def reasonText : ExclusionReason → String
  | .notInSnapshot => "NotInSnapshot"
  | .fetchFailed detail => "FetchFailed(" ++ Text.quoted detail ++ ")"
  | .inconsistentHierarchy detail => "InconsistentHierarchy(" ++ Text.quoted detail ++ ")"

/-- The points of an institution, one entry a line. -/
def institutionLines (p : InstitutionPoints) : List String :=
  s!"  - {p.institution}: {p.points}" ::
    p.entries.map fun e => s!"      {e.creator.text} via {e.affiliation}: {e.points}"

/-- The exclusions, one a line. -/
def exclusionLines : List ExcludedAffiliation → List String
  | [] => ["Excluded affiliations: none"]
  | xs => "Excluded affiliations" ::
      xs.map fun x => s!"  - {x.creator.text} via {x.affiliation}: " ++ reasonText x.reason

/-- The points of a publication. -/
def scoreLines (publication : PublicationId) (e : PointEvaluation) : List String :=
  let c := e.calculation
  [s!"Publication {publication.text}",
    s!"- {c.instanceType.label} in {c.channel.channelType.label} channel {c.channel.id} " ++
      s!"({c.channel.scientificValue.label})",
    s!"- base {c.basePoints} x factor {c.collaborationFactor} over {c.creatorShareCount} " ++
      s!"creator shares = {c.totalPoints} points",
    "Institutions"] ++
  c.institutions.flatMap institutionLines ++
  exclusionLines e.excluded

end PublicationIndicator.Report
