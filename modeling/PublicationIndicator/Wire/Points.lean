import PublicationIndicator.Points.Calculation
import PublicationIndicator.Wire.Publication

/-!
# PublicationIndicator.Wire.Points — calculations in documents
-/

namespace PublicationIndicator

open Decoder

/-! ### Calculations -/

namespace CreatorPoints

/-- The entry as an object. -/
def toJson (p : CreatorPoints) : Json :=
  .object [
    ("creator", p.creator.toJson),
    ("affiliation_id", p.affiliation.toJson),
    ("points", p.points.toJson)]

/-- An entry. -/
def decoder : Decoder CreatorPoints :=
  record ["creator", "affiliation_id", "points"] fun m =>
    mk <$> m.required "creator" CreatorIdentity.decoder
      <*> m.required "affiliation_id" OrganizationId.decoder
      <*> m.required "points" Decimal.decoder

end CreatorPoints

namespace InstitutionPoints

/-- The institution's points as an object. -/
def toJson (p : InstitutionPoints) : Json :=
  .object [
    ("institution_id", p.institution.toJson),
    ("institution_points", p.points.toJson),
    ("creator_affiliation_points", .array (p.entries.map CreatorPoints.toJson))]

/-- An institution's points. -/
def decoder : Decoder InstitutionPoints :=
  record ["institution_id", "institution_points", "creator_affiliation_points"] fun m =>
    mk <$> m.required "institution_id" OrganizationId.decoder
      <*> m.required "institution_points" Decimal.decoder
      <*> m.required "creator_affiliation_points" (list CreatorPoints.decoder)

end InstitutionPoints

namespace PointCalculation

/-- The calculation as an object. -/
def toJson (c : PointCalculation) : Json :=
  .object [
    ("instance_type", c.instanceType.toJson),
    ("channel", c.channel.toJson),
    ("is_international_collaboration", .bool c.isInternationalCollaboration),
    ("collaboration_factor", c.collaborationFactor.toJson),
    ("base_points", c.basePoints.toJson),
    ("creator_share_count", .ofNat c.creatorShareCount),
    ("total_points", c.totalPoints.toJson),
    ("institution_points", .array (c.institutions.map InstitutionPoints.toJson))]

/-- A calculation. -/
def decoder : Decoder PointCalculation :=
  record ["instance_type", "channel", "is_international_collaboration", "collaboration_factor",
      "base_points", "creator_share_count", "total_points", "institution_points"] fun m =>
    mk <$> m.required "instance_type" InstanceType.decoder
      <*> m.required "channel" PublicationChannel.decoder
      <*> m.required "is_international_collaboration" bool
      <*> m.required "collaboration_factor" Decimal.decoder
      <*> m.required "base_points" Decimal.decoder
      <*> m.required "creator_share_count" countDecoder
      <*> m.required "total_points" Decimal.decoder
      <*> m.required "institution_points" (list InstitutionPoints.decoder)

end PointCalculation

/-! ### Exclusions -/

namespace ExclusionReason

/-- The reason as an object that says which one it is. -/
def toJson : ExclusionReason → Json
  | notInSnapshot => .object [("kind", .string "not_in_snapshot")]
  | fetchFailed detail => .object [("kind", .string "fetch_failed"), ("detail", .string detail)]
  | inconsistentHierarchy detail =>
    .object [("kind", .string "inconsistent_hierarchy"), ("detail", .string detail)]

/-- A reason, which stands in four pairs of brackets. -/
def decoder : Decoder ExclusionReason :=
  tagged "kind" "detail" (depthLimit - 4) [
    ("not_in_snapshot", .bare .notInSnapshot),
    ("fetch_failed", .carrying (string.map .fetchFailed)),
    ("inconsistent_hierarchy", .carrying (string.map .inconsistentHierarchy))]

end ExclusionReason

namespace ExcludedAffiliation

/-- The exclusion as an object. -/
def toJson (x : ExcludedAffiliation) : Json :=
  .object [
    ("creator", x.creator.toJson),
    ("affiliation_id", x.affiliation.toJson),
    ("reason", x.reason.toJson)]

/-- An exclusion. -/
def decoder : Decoder ExcludedAffiliation :=
  record ["creator", "affiliation_id", "reason"] fun m =>
    mk <$> m.required "creator" CreatorIdentity.decoder
      <*> m.required "affiliation_id" OrganizationId.decoder
      <*> m.required "reason" ExclusionReason.decoder

end ExcludedAffiliation

namespace PointEvaluation

/-- The evaluation as an object. -/
def toJson (e : PointEvaluation) : Json :=
  .object [
    ("calculation", e.calculation.toJson),
    ("excluded_affiliations", .array (e.excluded.map ExcludedAffiliation.toJson))]

/-- An evaluation. -/
def decoder : Decoder PointEvaluation :=
  record ["calculation", "excluded_affiliations"] fun m =>
    mk <$> m.required "calculation" PointCalculation.decoder
      <*> m.required "excluded_affiliations" (list ExcludedAffiliation.decoder)

end PointEvaluation

/-! ### Reasons for no points -/

namespace InvalidFacts

/-- The reason by its name, with what it is about. -/
def toJson : InvalidFacts → Json
  | channelNotRated level => .object [("ChannelNotRated", level.toJson)]
  | incompatibleChannel instanceType channelType =>
    .object [("IncompatibleChannel", .object [
      ("instance_type", instanceType.toJson), ("channel_type", channelType.toJson)])]
  | noResolvableCreators => .string "NoResolvableCreators"
  | blankCreator index => .object [("BlankCreator", .object [("index", .ofNat index)])]

/-- A reason. -/
def decoder : Decoder InvalidFacts :=
  variant [
    ("ChannelNotRated", .carrying (ScientificValue.decoder.map .channelNotRated)),
    ("IncompatibleChannel", .carrying (record ["instance_type", "channel_type"] fun m =>
      incompatibleChannel <$> m.required "instance_type" InstanceType.decoder
        <*> m.required "channel_type" ChannelType.decoder)),
    ("NoResolvableCreators", .bare .noResolvableCreators),
    ("BlankCreator", .carrying (record ["index"] fun m =>
      blankCreator <$> m.required "index" versionDecoder))]

end InvalidFacts

end PublicationIndicator
