import PublicationIndicator.Points.Scoring
import PublicationIndicator.Service.Error

/-!
# PublicationIndicator.Service.Evaluation — scoring and reviewing stored candidates

`evaluate` scores a publication and brings the stored candidate up to date; when somebody else writes
in between it starts again from what is stored then.  `updateApproval` carries out a request against
the version that was loaded and leaves it to the caller to try again.
-/

namespace PublicationIndicator.Service

/-- What an evaluation found. -/
structure EvaluationReport where
  stored : StoredCandidate
  excluded : List ExcludedAffiliation
  /-- Was anything written? -/
  changed : Bool

/-- Announces what was stored, and then gives the result. -/
def announce {α : Type} (stored : StoredCandidate) (result : α) : Session (Except ServiceError α) :=
  .publish stored fun
    | .ok () => .done (.ok result)
    | .error e => .done (.error (.publish e))

/-! ### Writing until it works -/

/-- Is the candidate stored as it is? -/
def isStored (current : Option StoredCandidate) (proposed : Candidate) : Bool :=
  match current with
  | some s => s.candidate == proposed
  | none => false

/-- Loads a candidate, writes what `propose` makes of it and announces that, unless there is nothing
to write.  A write that meets a newer version is tried again, `left` times in all; `attempts` is how
often it was meant to be tried.  The result is what is stored and whether it was written. -/
def writeFrom (id : CandidateId) (propose : Option Candidate → Option Candidate) (attempts : Nat) :
    (left : Nat) → Session (Except ServiceError (Option (StoredCandidate × Bool)))
  | 0 => .done (.error (.retriesExhausted id attempts))
  | left + 1 => .load id fun
    | .error e => .done (.error (.store e))
    | .ok current =>
      match propose (current.map StoredCandidate.candidate) with
      | none => .done (.ok (current.map fun s => (s, false)))
      | some proposed =>
        if isStored current proposed then .done (.ok (current.map fun s => (s, false)))
        else
          .save proposed (current.map StoredCandidate.version) fun
            | .ok version => announce ⟨proposed, version⟩ (some (⟨proposed, version⟩, true))
            | .error (.concurrentModification _ _ _) => writeFrom id propose attempts left
            | .error e => .done (.error (.store e))

/-- Writes with as many attempts as are given, but at least one. -/
def write (attempts : Nat) (id : CandidateId) (propose : Option Candidate → Option Candidate) :
    Session (Except ServiceError (Option (StoredCandidate × Bool))) :=
  writeFrom id propose (max attempts 1) (max attempts 1)

/-! ### Evaluation -/

/-- New points for a candidate, or a new candidate for the points. -/
def proposePoints (publication : PublicationId) (points : PointCalculation) :
    Option Candidate → Option Candidate
  | some c => some (c.recalculate points)
  | none => some (.create publication points)

/-- A candidate whose publication can earn no points any more. -/
def proposeNotApplicable : Option Candidate → Option Candidate
  | some c => if c.applicable then some c.markNotApplicable else none
  | none => none

/-- Scores a publication and stores the result.  Facts that earn no points mark a stored candidate
accordingly and are refused. -/
def evaluate (provider : OrganizationProvider) (attempts : Nat) (facts : PublicationFacts) :
    Session (Except ServiceError EvaluationReport) :=
  match scoreThrough provider facts with
  | .error (.invalidFacts reason) => do
    match ← write attempts facts.candidate proposeNotApplicable with
    | .ok _ => return .error (.notApplicable reason)
    | .error e => return .error e
  | .error (.defect d) => return .error (.calculation d)
  | .ok e => do
    match ← write attempts facts.candidate (proposePoints facts.publication e.calculation) with
    | .ok (some (stored, changed)) => return .ok ⟨stored, e.excluded, changed⟩
    | .ok none => return .error (.store .notFound)
    | .error e => return .error e

/-! ### Reading and reviewing -/

/-- The stored candidate. -/
def get (id : CandidateId) : Session (Except ServiceError StoredCandidate) :=
  .load id fun
    | .error e => .done (.error (.store e))
    | .ok none => .done (.error (.store .notFound))
    | .ok (some current) => .done (.ok current)

/-- Does the request rest on another version? -/
def isStale (r : ApprovalRequest) (version : Nat) : Bool :=
  match r.expectedVersion with
  | some expected => expected ≠ version
  | none => false

/-- Carries out a request on a stored candidate, against the version that is loaded. -/
def updateApproval (id : CandidateId) (r : ApprovalRequest) (time : Instant) :
    Session (Except ServiceError StoredCandidate) :=
  .load id fun
    | .error e => .done (.error (.store e))
    | .ok none => .done (.error (.store .notFound))
    | .ok (some current) =>
      if isStale r current.version then
        .done (.error (.store (.concurrentModification id r.expectedVersion (some current.version))))
      else
        match current.candidate.apply (.approval r time) with
        | .error e => .done (.error (.candidate e))
        | .ok next =>
          .save next (some current.version) fun
            | .error e => .done (.error (.store e))
            | .ok version => announce ⟨next, version⟩ ⟨next, version⟩

end PublicationIndicator.Service
