import PublicationIndicator.Http.Request
import PublicationIndicator.Http.Route
import PublicationIndicator.Http.Status
import PublicationIndicator.Service.Evaluation
import PublicationIndicator.Wire.Candidate

/-!
# PublicationIndicator.Http.Router — requests and their answers

Candidates are evaluated, read and reviewed over HTTP.  A request is looked at in this order: its
place, its method, the name in its path, what its body is said to be, and the body.
-/

namespace PublicationIndicator

/-- An answer: a status and perhaps a document. -/
structure HttpResponse where
  status : HttpStatus
  body : Option Json

namespace HttpResponse

/-- A status without a document. -/
def empty (status : HttpStatus) : HttpResponse := ⟨status, none⟩

/-- A status with a document. -/
def document (status : HttpStatus) (j : Json) : HttpResponse := ⟨status, some j⟩

/-- What is answered when the service refuses a call. -/
def refusal (e : ServiceError) : HttpResponse :=
  document e.status (.object [("error", .string e.message)])

end HttpResponse

namespace Service

/-- The report as a document. -/
def EvaluationReport.toJson (r : EvaluationReport) : Json :=
  .object [
    ("candidate", r.stored.view.toJson),
    ("changed", .bool r.changed),
    ("excluded_affiliations", .array (r.excluded.map ExcludedAffiliation.toJson))]

end Service

/-- What answers to requests depend on beside the store. -/
structure Router where
  /-- Where organizations come from. -/
  provider : OrganizationProvider
  /-- How often a recalculation is tried. -/
  attempts : Nat
  /-- Has the program started? -/
  isReady : Bool

namespace Router

/-- The value in the body of a request, or what is answered if there is none. -/
def bodyOf {α : Type} (r : HttpRequest) (d : Decoder α) : Except HttpResponse α :=
  if r.contentType.any MediaType.isJson then
    match d.ofFrontOfText r.body with
    | .ok a => .ok a
    | .error .malformed => .error (.empty .badRequest)
    | .error .mismatch => .error (.empty .unprocessableEntity)
  else .error (.empty .unsupportedMediaType)

/-- Answers with what the service says. -/
def answering {α : Type} (call : Session (Except ServiceError α)) (f : α → Json) :
    Session HttpResponse := do
  match ← call with
  | .ok a => return .document .ok (f a)
  | .error e => return .refusal e

/-! ### Handlers -/

/-- Evaluates the publication in the body. -/
def evaluate (w : Router) (r : HttpRequest) : Session HttpResponse :=
  match bodyOf r PublicationFacts.decoder with
  | .error answer => return answer
  | .ok facts => answering (Service.evaluate w.provider w.attempts facts) Service.EvaluationReport.toJson

/-- Shows a candidate. -/
def view (segment : String) : Session HttpResponse :=
  match Percent.decode? segment with
  | none => return .empty .badRequest
  | some id => answering (Service.get ⟨id⟩) fun s => s.view.toJson

/-- Carries out the request in the body on a candidate. -/
def review (r : HttpRequest) (segment : String) (time : Instant) : Session HttpResponse :=
  match Percent.decode? segment with
  | none => return .empty .badRequest
  | some id =>
    match bodyOf r ApprovalRequest.decoder with
    | .error answer => return answer
    | .ok request => answering (Service.updateApproval ⟨id⟩ request time) fun s => s.view.toJson

/-- Tells whether the program has started. -/
def readiness (w : Router) : HttpResponse :=
  if w.isReady then .document .ok (.object [("status", .string "ready")])
  else .document .serviceUnavailable (.object [("status", .string "initializing")])

/-! ### Routing -/

/-- The answer to a request to read from a place, if it can be read from. -/
def read? (w : Router) : Route → Option (Session HttpResponse)
  | .candidate segment => some (view segment)
  | .health => some (.done (.document .ok (.object [("status", .string "ok")])))
  | .ready => some (.done w.readiness)
  | .metrics => some (.done (.empty .ok))
  | .evaluations | .approvals _ => none

/-- The answer to a request to write to a place, if it can be written to. -/
def write? (w : Router) (r : HttpRequest) (time : Instant) : Route → Option (Session HttpResponse)
  | .evaluations => some (w.evaluate r)
  | .approvals segment => some (review r segment time)
  | _ => none

/-- Answers a request that arrives at that time. -/
def respond (w : Router) (r : HttpRequest) (time : Instant) : Session HttpResponse :=
  match Route.ofPath? r.path with
  | none => return .empty .notFound
  | some route =>
    let handled : Option (Session HttpResponse) :=
      match r.method with
      | .get => w.read? route
      | .head => (w.read? route).map fun s => (fun answer => .empty answer.status) <$> s
      | .post => w.write? r time route
      | .other => none
    handled.getD (return .empty .methodNotAllowed)

end Router

end PublicationIndicator
