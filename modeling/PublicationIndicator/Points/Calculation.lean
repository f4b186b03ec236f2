import PublicationIndicator.Decimal.Points
import PublicationIndicator.Decimal.Text
import PublicationIndicator.Ordered.Set
import PublicationIndicator.Publication.Facts

/-!
# PublicationIndicator.Points.Calculation — the points of a publication

A calculation lists the institutions that earn points, and for each of them the entries that its
points are the sum of: one for every creator and affiliation that leads to the institution.  `==`
compares the numbers in it by value.
-/

namespace PublicationIndicator

/-- The points that a creator earns through one affiliation. -/
structure CreatorPoints where
  creator : CreatorIdentity
  affiliation : OrganizationId
  points : Decimal
deriving BEq, ReflBEq

/-- The points of an institution and the entries that they are made of. -/
structure InstitutionPoints where
  institution : OrganizationId
  points : Decimal
  entries : List CreatorPoints
deriving BEq, ReflBEq

/-- The affiliations below an institution through which it earns points. -/
def InstitutionPoints.involvedOrganizations (p : InstitutionPoints) : SortedSet OrganizationId :=
  .ofList ((p.entries.map CreatorPoints.affiliation).filter (· ≠ p.institution))

/-- The points of a publication and what they were calculated from. -/
structure PointCalculation where
  instanceType : InstanceType
  channel : PublicationChannel
  isInternationalCollaboration : Bool
  collaborationFactor : Decimal
  basePoints : Decimal
  /-- How many creators have a share in the points. -/
  creatorShareCount : Nat
  totalPoints : Decimal
  institutions : List InstitutionPoints
deriving BEq, ReflBEq

namespace PointCalculation

/-- The points of one institution. -/
def institution? (c : PointCalculation) (id : OrganizationId) : Option InstitutionPoints :=
  c.institutions.find? (fun p => p.institution = id)

/-- The institutions that earn points. -/
def institutionIds (c : PointCalculation) : List OrganizationId :=
  c.institutions.map InstitutionPoints.institution

end PointCalculation

/-! ### What did not count -/

/-- Why an affiliation counts for no institution. -/
inductive ExclusionReason where
  | notInSnapshot
  | fetchFailed (detail : String)
  | inconsistentHierarchy (detail : String)
deriving DecidableEq

/-- An affiliation of a creator that counts for no institution. -/
structure ExcludedAffiliation where
  creator : CreatorIdentity
  affiliation : OrganizationId
  reason : ExclusionReason
deriving DecidableEq

/-- A calculation together with the affiliations that it leaves out. -/
structure PointEvaluation where
  calculation : PointCalculation
  excluded : List ExcludedAffiliation
deriving BEq, ReflBEq

/-! ### Why there are no points -/

/-- Why a publication can earn no points. -/
inductive InvalidFacts where
  | channelNotRated (level : ScientificValue)
  | incompatibleChannel (instanceType : InstanceType) (channelType : ChannelType)
  | noResolvableCreators
  | blankCreator (index : Nat)
deriving DecidableEq

/-- The reason in words. -/
def InvalidFacts.message : InvalidFacts → String
  | channelNotRated level => "publication channel is not rated (" ++ level.label ++ ")"
  | incompatibleChannel instanceType channelType =>
    instanceType.label ++ " cannot be published in a " ++ channelType.label ++ " channel"
  | noResolvableCreators => "no creator is affiliated with a known institution"
  | blankCreator index => s!"creator at position {index} has neither identifier nor name"

/-- The steps of a calculation that may leave the range of decimals. -/
inductive CalculationStep where
  | creatorShare
  | institutionShare
  | affiliationShare
  | sum
  | institutionTotal
deriving DecidableEq

/-- The step's name. -/
def CalculationStep.label : CalculationStep → String
  | creatorShare => "creator share"
  | institutionShare => "institution share"
  | affiliationShare => "affiliation share"
  | sum => "sum"
  | institutionTotal => "institution total"

/-- What a calculation must never be. -/
inductive CalculationDefect where
  | negativeValue
  | nonPositiveInstitution (institution : OrganizationId)
  | wrongScale (institution : OrganizationId)
  | entriesDiffer (institution : OrganizationId) (points : Decimal)
  | totalDiffers (institutions total : Decimal)
  | overflow (step : CalculationStep)

/-- The defect in words. -/
def CalculationDefect.message : CalculationDefect → String
  | negativeValue => "negative point value"
  | nonPositiveInstitution id => s!"institution {id} has non-positive points"
  | wrongScale id => s!"institution {id} points not stored with {Decimal.pointScale} decimals"
  | entriesDiffer id points => s!"creator points for {id} do not add up to {points}"
  | totalDiffers institutions total => s!"institution points {institutions} differ from total {total}"
  | overflow step => "arithmetic overflow in " ++ step.label

/-- A calculation's failure: the facts earn no points, or the result is not as it must be. -/
inductive PointError where
  | invalidFacts (reason : InvalidFacts)
  | defect (defect : CalculationDefect)

/-- The failure in words. -/
def PointError.message : PointError → String
  | invalidFacts reason => "publication is not applicable: " ++ reason.message
  | defect d => "calculation invariant violated: " ++ d.message

end PublicationIndicator
