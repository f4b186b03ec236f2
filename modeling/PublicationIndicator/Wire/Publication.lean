import PublicationIndicator.Publication.Facts
import PublicationIndicator.Wire.Scalar

/-!
# PublicationIndicator.Wire.Publication — publication facts in documents
-/

namespace PublicationIndicator

open Decoder

/-! ### Categories, channels and levels -/

/-- The category's name as a string. -/
def InstanceType.toJson (t : InstanceType) : Json := .string t.label

/-- A category. -/
def InstanceType.decoder : Decoder InstanceType :=
  choice ([.academicArticle, .academicLiteratureReview, .academicMonograph, .academicCommentary,
    .academicChapter].map fun t => (t.label, t))

/-- The channel type's name as a string. -/
def ChannelType.toJson (t : ChannelType) : Json := .string t.label

/-- A channel type. -/
def ChannelType.decoder : Decoder ChannelType :=
  choice ([.journal, .series, .publisher].map fun t => (t.label, t))

/-- The level's name as a string. -/
def ScientificValue.toJson (v : ScientificValue) : Json := .string v.label

/-- A level. -/
def ScientificValue.decoder : Decoder ScientificValue :=
  choice ([.unassigned, .levelZero, .levelOne, .levelTwo].map fun v => (v.label, v))

namespace PublicationChannel

/-- The channel as an object. -/
def toJson (c : PublicationChannel) : Json :=
  .object [
    ("id", .string c.id),
    ("channel_type", c.channelType.toJson),
    ("scientific_value", c.scientificValue.toJson)]

/-- A channel. -/
def decoder : Decoder PublicationChannel :=
  record ["id", "channel_type", "scientific_value"] fun m =>
    mk <$> m.required "id" string
      <*> m.required "channel_type" ChannelType.decoder
      <*> m.required "scientific_value" ScientificValue.decoder

end PublicationChannel

/-! ### Creators -/

namespace CreatorIdentity

/-- The identity as an object that says which of the two it is. -/
def toJson (c : CreatorIdentity) : Json :=
  .object [
    ("kind", .string (if c.isVerified then "verified" else "unverified")),
    ("value", .string c.text)]

/-- An identity, which stands in four pairs of brackets. -/
def decoder : Decoder CreatorIdentity :=
  tagged "kind" "value" (depthLimit - 4) [
    ("verified", .carrying (string.map .verified)),
    ("unverified", .carrying (string.map .unverified))]

end CreatorIdentity

namespace Creator

/-- The creator as an object. -/
def toJson (c : Creator) : Json :=
  .object [
    ("identity", c.identity.toJson),
    ("affiliations", .array (c.affiliations.map OrganizationId.toJson))]

/-- A creator, perhaps without affiliations. -/
def decoder : Decoder Creator :=
  record ["identity", "affiliations"] fun m =>
    mk <$> m.required "identity" CreatorIdentity.decoder
      <*> m.withDefault "affiliations" [] (list OrganizationId.decoder)

end Creator

/-! ### Facts -/

namespace PublicationFacts

/-- The facts as an object. -/
def toJson (f : PublicationFacts) : Json :=
  .object [
    ("publication_id", f.publication.toJson),
    ("instance_type", f.instanceType.toJson),
    ("channel", f.channel.toJson),
    ("creators", .array (f.creators.map Creator.toJson))]

/-- The facts with these creators.  What does not fit into memory does not stand in any text. -/
def withCreators? (publication : PublicationId) (instanceType : InstanceType)
    (channel : PublicationChannel) (creators : List Creator) : Option PublicationFacts :=
  if fits : creators.length + (creators.flatMap Creator.affiliations).length < 18446744073709551616 then
    some ⟨publication, instanceType, channel, creators, fits⟩
  else none

/-- The facts of a publication. -/
def decoder : Decoder PublicationFacts :=
  (record ["publication_id", "instance_type", "channel", "creators"] fun m =>
    withCreators? <$> m.required "publication_id" PublicationId.decoder
      <*> m.required "instance_type" InstanceType.decoder
      <*> m.required "channel" PublicationChannel.decoder
      <*> m.required "creators" (list Creator.decoder)).mapPartial id

end PublicationFacts

end PublicationIndicator
