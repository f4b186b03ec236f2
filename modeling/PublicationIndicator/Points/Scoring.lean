import PublicationIndicator.Decimal.Points
import PublicationIndicator.Organization.Snapshot
import PublicationIndicator.Points.Calculation
import PublicationIndicator.Points.Table

/-!
# PublicationIndicator.Points.Scoring — how points are shared

A publication's points are shared equally among its creators, a creator's share equally among the top
institutions that the creator is affiliated with, and an institution's part of it equally among the
affiliations through which it is reached.  Each entry is rounded once; institutions add up their
entries.  `PointCalculation.check` says what is wrong with a calculation.

Whatever is divided by is counted in 32 bits (`count32`).
-/

namespace PublicationIndicator

open Decimal

/-! ### Creators -/

/-- Every creator once, where they are first named, with all their affiliations. -/
def mergeCreators (cs : List Creator) : List Creator :=
  (firstSeen (cs.map Creator.identity)).map fun c =>
    ⟨c, firstSeen ((cs.filter (fun c' => c'.identity = c)).flatMap Creator.affiliations)⟩

namespace Creator

/-- The affiliations that stand in a hierarchy, each with the top of its tree. -/
def resolved (c : Creator) (h : Hierarchy) : List (OrganizationId × OrganizationId) :=
  c.affiliations.filterMap fun a => (h.root? a).map fun r => (a, r)

/-- The institutions that the affiliations lead to. -/
def roots (c : Creator) (h : Hierarchy) : List OrganizationId :=
  firstSeen ((c.resolved h).map (·.2))

/-- The affiliations that lead to one institution. -/
def under (c : Creator) (h : Hierarchy) (root : OrganizationId) : List OrganizationId :=
  ((c.resolved h).filter (fun p => p.2 = root)).map (·.1)

/-- The affiliations that do not stand in a hierarchy. -/
def unresolved (c : Creator) (h : Hierarchy) : List ExcludedAffiliation :=
  (c.affiliations.filter (fun a => (h.root? a).isNone)).map fun a =>
    ⟨c.identity, a, .notInSnapshot⟩

end Creator

/-! ### Shares -/

/-- The result of a step, unless it leaves the range of decimals. -/
def CalculationStep.expect (step : CalculationStep) : Option Decimal → Except PointError Decimal
  | some d => .ok d
  | none => .error (.defect (.overflow step))

/-- A count as it is kept: in 32 bits, so that after the last number it starts again from nothing. -/
def count32 (n : Nat) : Nat := n % 4294967296

/-- One of `n` equal parts, as far as `n` can be counted. -/
def part? (d : Decimal) (n : Nat) : Option Decimal := (ofInt? (count32 n)).bind d.div?

/-- The share of each of `n` creators in the points of a publication. -/
def creatorShare (base factor : Decimal) (n : Nat) : Except PointError Decimal :=
  CalculationStep.creatorShare.expect ((base.mul? factor).bind fun d => part? d n)

/-- The share of each of `m` affiliations with an institution, which is one of `k` institutions that
a creator's share goes to. -/
def affiliationShare (share : Decimal) (k m : Nat) : Except PointError Decimal := do
  let institutionShare ← CalculationStep.institutionShare.expect (part? share k)
  CalculationStep.affiliationShare.expect (part? institutionShare m)

/-- A creator's entries, each with the institution that it counts for. -/
def Creator.credits (c : Creator) (h : Hierarchy) (share : Decimal) :
    Except PointError (List (OrganizationId × CreatorPoints)) :=
  (c.resolved h).mapM fun p => do
    let points ← affiliationShare share (c.roots h).length (c.under h p.2).length
    return (p.2, ⟨c.identity, p.1, roundPoints points⟩)

/-! ### Institutions -/

/-- The sum of points. -/
def sumPoints (ds : List Decimal) : Except PointError Decimal := CalculationStep.sum.expect (sum? ds)

/-- The points of an institution, if its entries come to anything. -/
def institutionPoints? (credits : List (OrganizationId × CreatorPoints)) (id : OrganizationId) :
    Except PointError (Option InstitutionPoints) := do
  let entries := (credits.filter (fun c => c.1 = id)).map (·.2)
  let total ← sumPoints (entries.map CreatorPoints.points)
  return if total.isZero then none else some ⟨id, roundPoints total, entries⟩

/-- Every institution that some of the creators have an affiliation with, in order. -/
def institutionsOf (h : Hierarchy) (cs : List Creator) : List OrganizationId :=
  (SortedSet.ofList (cs.flatMap fun c => c.roots h)).toList

/-- The points of a publication whose facts are in order: `base` are its points before they are
shared, `cs` the creators who have a share. -/
def shareOut (facts : PublicationFacts) (h : Hierarchy) (base : Decimal) (cs : List Creator) :
    Except PointError PointCalculation := do
  let ids := institutionsOf h cs
  let factor := collaborationFactor ids.length
  let share ← creatorShare base factor cs.length
  let credits ← cs.mapM fun c => c.credits h share
  let institutions ← ids.mapM (institutionPoints? credits.flatten)
  let earning := institutions.filterMap id
  let total ← sumPoints (earning.map InstitutionPoints.points)
  return {
    instanceType := facts.instanceType
    channel := facts.channel
    isInternationalCollaboration := isCollaboration ids.length
    collaborationFactor := factor
    basePoints := roundPoints base
    creatorShareCount := count32 cs.length
    totalPoints := roundPoints total
    institutions := earning }

/-! ### The whole calculation -/

/-- The points of a publication, and the affiliations that are left out, before the check. -/
def calculate (facts : PublicationFacts) (h : Hierarchy) : Except PointError PointEvaluation := do
  let level := facts.channel.scientificValue
  let some base := basePoints? facts.instanceType level
    | throw (.invalidFacts (.channelNotRated level))
  if ¬ facts.instanceType.accepts facts.channel.channelType then
    throw (.invalidFacts (.incompatibleChannel facts.instanceType facts.channel.channelType))
  if let some index := facts.creators.findIdx? (fun c => c.identity.isBlank) then
    throw (.invalidFacts (.blankCreator index))
  let creators := mergeCreators facts.creators
  let eligible := creators.filter (fun c => c.roots h ≠ [])
  if eligible = [] then throw (.invalidFacts .noResolvableCreators)
  return ⟨← shareOut facts h base eligible, creators.flatMap fun c => c.unresolved h⟩

/-- What is wrong with the points of an institution. -/
def InstitutionPoints.check (p : InstitutionPoints) : Except PointError Unit := do
  if p.points.coefficient ≤ 0 then throw (.defect (.nonPositiveInstitution p.institution))
  if p.points.scale ≠ pointScale then throw (.defect (.wrongScale p.institution))
  let sum ← sumPoints (p.entries.map CreatorPoints.points)
  if p.entries.any (fun e => e.points.isNegative) ∨ ¬ sum == p.points then
    throw (.defect (.entriesDiffer p.institution p.points))

/-- The sum of the institutions' points, unless there is something wrong with one of them. -/
def checkInstitutions (total : Decimal) (p : InstitutionPoints) : Except PointError Decimal := do
  p.check
  CalculationStep.institutionTotal.expect (total.add? p.points)

/-- What is wrong with a calculation: points are positive with four digits behind the point, entries
add up to the points of their institution, and these to the total within a last digit each. -/
def PointCalculation.check (c : PointCalculation) : Except PointError Unit := do
  if c.totalPoints.isNegative ∨ c.basePoints.isNegative then throw (.defect .negativeValue)
  let sum ← c.institutions.foldlM checkInstitutions zero
  let tolerance := mkRat (count32 (max c.institutions.length 1)) (Nat.pow 10 pointScale)
  let difference := sum.toRat - c.totalPoints.toRat
  if tolerance < difference ∨ tolerance < -difference then
    throw (.defect (.totalDiffers sum c.totalPoints))

/-- The points of a publication in a hierarchy. -/
def score (facts : PublicationFacts) (h : Hierarchy) : Except PointError PointEvaluation := do
  let evaluation ← calculate facts h
  evaluation.calculation.check
  return evaluation

/-! ### Scoring through a registry -/

/-- The exclusion that a failure to deliver an affiliation leads to. -/
def FetchError.exclusionReason : FetchError → ExclusionReason
  | .inconsistent conflict => .inconsistentHierarchy conflict.message
  | e => .fetchFailed e.message

/-- Gives the reason for each exclusion that a failure explains. -/
def PointEvaluation.attribute (failures : List (OrganizationId × FetchError)) (e : PointEvaluation) :
    PointEvaluation :=
  { e with excluded := e.excluded.map fun x =>
      match failures.find? (fun f => f.1 = x.affiliation) with
      | some f => { x with reason := f.2.exclusionReason }
      | none => x }

/-- The points of a publication in the trees that a registry delivers for its affiliations. -/
def scoreThrough (provider : OrganizationProvider) (facts : PublicationFacts) :
    Except PointError PointEvaluation :=
  let snapshot := Snapshot.take provider facts.affiliations
  (score facts snapshot.hierarchy).map (PointEvaluation.attribute snapshot.failures)

end PublicationIndicator
