import PublicationIndicator.Points.Calculation
import PublicationIndicator.Service.Session

/-!
# PublicationIndicator.Service.Error — why the service refuses a call
-/

namespace PublicationIndicator

/-- Why the service refuses a call. -/
inductive ServiceError where
  | notApplicable (reason : InvalidFacts)
  | calculation (defect : CalculationDefect)
  | candidate (e : CandidateError)
  | store (e : StoreError)
  | publish (e : PublishError)
  | retriesExhausted (id : CandidateId) (attempts : Nat)

namespace ServiceError

/-- The refusal in words. -/
def message : ServiceError → String
  | notApplicable reason => "publication is not applicable: " ++ reason.message
  | calculation d => (PointError.defect d).message
  | candidate e => e.message
  | store e => e.message
  | publish e => e.message
  | retriesExhausted id attempts => s!"candidate {id} kept changing; gave up after {attempts} attempts"

/-- A failed calculation as the service reports it. -/
def ofPointError : PointError → ServiceError
  | .invalidFacts reason => notApplicable reason
  | .defect d => calculation d

end ServiceError

end PublicationIndicator
