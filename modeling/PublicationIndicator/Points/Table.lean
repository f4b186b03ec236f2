import PublicationIndicator.Decimal.Basic
import PublicationIndicator.Publication.Facts

/-!
# PublicationIndicator.Points.Table — what a publication is worth

The points of a publication before they are shared, by its category and the level of its channel, and
the factor by which publications of several institutions count for more.
-/

namespace PublicationIndicator

/-- The points of a category in channels of a level; channels that are not rated give none. -/
def basePoints? : InstanceType → ScientificValue → Option Decimal
  | _, .unassigned | _, .levelZero => none
  | .academicArticle, .levelOne | .academicLiteratureReview, .levelOne => some (.ofByte 1)
  | .academicArticle, .levelTwo | .academicLiteratureReview, .levelTwo => some (.ofByte 3)
  | .academicMonograph, .levelOne | .academicCommentary, .levelOne => some (.ofByte 5)
  | .academicMonograph, .levelTwo | .academicCommentary, .levelTwo => some (.ofByte 8)
  | .academicChapter, .levelOne => some (.ofTenths 7)
  | .academicChapter, .levelTwo => some (.ofByte 1)

/-- Does a publication with creators from that many institutions count as a collaboration? -/
def isCollaboration (institutions : Nat) : Bool := 2 ≤ institutions

/-- The factor for a publication with creators from that many institutions: 1.3 from two on. -/
def collaborationFactor (institutions : Nat) : Decimal :=
  if isCollaboration institutions then .ofTenths 13 else .one

/-- The rated levels are those that give points. -/
theorem isSome_basePoints? (t : InstanceType) (v : ScientificValue) :
    (basePoints? t v).isSome = v.isRated := by
  cases t <;> cases v <;> rfl

end PublicationIndicator
