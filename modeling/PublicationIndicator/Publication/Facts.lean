import PublicationIndicator.Publication.Name
import PublicationIndicator.Text.Blank

/-!
# PublicationIndicator.Publication.Facts — what is known of a publication

A publication belongs to a category, appeared in a channel of some level, and names its creators with
their affiliations.  A category goes with some kinds of channel only.
-/

namespace PublicationIndicator

/-- The categories of publications that can earn points. -/
inductive InstanceType where
  | academicArticle
  | academicLiteratureReview
  | academicMonograph
  | academicCommentary
  | academicChapter
deriving DecidableEq

/-- The kinds of publication channel. -/
inductive ChannelType where
  | journal
  | series
  | publisher
deriving DecidableEq

/-- The level that the national register gives a channel. -/
inductive ScientificValue where
  | unassigned
  | levelZero
  | levelOne
  | levelTwo
deriving DecidableEq

namespace InstanceType

/-- The category's name. -/
def label : InstanceType → String
  | academicArticle => "AcademicArticle"
  | academicLiteratureReview => "AcademicLiteratureReview"
  | academicMonograph => "AcademicMonograph"
  | academicCommentary => "AcademicCommentary"
  | academicChapter => "AcademicChapter"

/-- Articles and reviews appear in journals, books and their parts in series or with a publisher. -/
def accepts : InstanceType → ChannelType → Bool
  | academicArticle, .journal | academicLiteratureReview, .journal => true
  | academicArticle, _ | academicLiteratureReview, _ => false
  | _, .journal => false
  | _, _ => true

end InstanceType

/-- The channel type's name. -/
def ChannelType.label : ChannelType → String
  | journal => "Journal"
  | series => "Series"
  | publisher => "Publisher"

namespace ScientificValue

/-- The level's name. -/
def label : ScientificValue → String
  | unassigned => "Unassigned"
  | levelZero => "LevelZero"
  | levelOne => "LevelOne"
  | levelTwo => "LevelTwo"

/-- Publications in channels of level one and two earn points. -/
def isRated : ScientificValue → Bool
  | levelOne | levelTwo => true
  | _ => false

end ScientificValue

/-- Where a publication appeared. -/
structure PublicationChannel where
  id : String
  channelType : ChannelType
  scientificValue : ScientificValue
deriving DecidableEq

/-- Who a creator is: somebody known by an identifier, or only by name. -/
inductive CreatorIdentity where
  | verified (id : String)
  | unverified (name : String)
deriving DecidableEq

namespace CreatorIdentity

/-- The identifier or the name. -/
def text : CreatorIdentity → String
  | verified id => id
  | unverified name => name

/-- Is the creator known by an identifier? -/
def isVerified : CreatorIdentity → Bool
  | verified _ => true
  | unverified _ => false

/-- Does the identity consist of blanks, so that it tells nothing? -/
def isBlank (c : CreatorIdentity) : Bool := Text.isBlank c.text

end CreatorIdentity

/-- A creator with the organizations that the publication names for them. -/
structure Creator where
  identity : CreatorIdentity
  affiliations : List OrganizationId
deriving DecidableEq

/-- What is known of a publication. -/
structure PublicationFacts where
  publication : PublicationId
  instanceType : InstanceType
  channel : PublicationChannel
  creators : List Creator
  /-- Creators and affiliations are held in memory, whose places a machine word counts. -/
  fits : creators.length + (creators.flatMap Creator.affiliations).length < 18446744073709551616
deriving DecidableEq

/-- The list with every element only where it stands first. -/
def firstSeen {α : Type} [DecidableEq α] (l : List α) : List α :=
  l.foldl (fun seen a => if a ∈ seen then seen else seen ++ [a]) []

namespace PublicationFacts

/-- The candidate that the facts are about. -/
def candidate (f : PublicationFacts) : CandidateId := f.publication.candidate

/-- Every affiliation of any creator, in the order in which they are first named. -/
def affiliations (f : PublicationFacts) : List OrganizationId :=
  firstSeen (f.creators.flatMap Creator.affiliations)

end PublicationFacts

end PublicationIndicator
