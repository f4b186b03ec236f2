import PublicationIndicator.Organization.Record
import PublicationIndicator.Wire.Scalar

/-!
# PublicationIndicator.Wire.Organization — organization records in documents
-/

namespace PublicationIndicator.Organization

open Decoder

/-- The record as an object; a parent that is not known is `null`. -/
def toJson (o : Organization) : Json :=
  .object [
    ("id", o.id.toJson),
    ("part_of", .ofOption OrganizationId.toJson o.partOf),
    ("has_part", .array (o.hasPart.map OrganizationId.toJson))]

/-- A record; parent and parts may be left out. -/
def decoder : Decoder Organization :=
  record ["id", "part_of", "has_part"] fun m =>
    mk <$> m.required "id" OrganizationId.decoder
      <*> m.optional "part_of" OrganizationId.decoder
      <*> m.withDefault "has_part" [] (list OrganizationId.decoder)

end PublicationIndicator.Organization
