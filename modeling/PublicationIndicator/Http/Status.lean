import PublicationIndicator.Service.Error

/-!
# PublicationIndicator.Http.Status — status codes of answers

What the caller can mend is answered with a code from 400 on, what is wrong inside with one from 500
on.
-/

namespace PublicationIndicator

/-- The status of an answer over HTTP. -/
inductive HttpStatus where
  | ok
  | badRequest
  | notFound
  | methodNotAllowed
  | conflict
  | preconditionFailed
  | unsupportedMediaType
  | unprocessableEntity
  | internalServerError
  | serviceUnavailable
deriving DecidableEq

/-- The number of a status. -/
def HttpStatus.code : HttpStatus → Nat
  | ok => 200
  | badRequest => 400
  | notFound => 404
  | methodNotAllowed => 405
  | conflict => 409
  | preconditionFailed => 412
  | unsupportedMediaType => 415
  | unprocessableEntity => 422
  | internalServerError => 500
  | serviceUnavailable => 503

/-- The status with which a refusal of the service is answered. -/
def ServiceError.status : ServiceError → HttpStatus
  | notApplicable _ => .unprocessableEntity
  | candidate (.approval (.notFound _)) => .notFound
  | store .notFound => .notFound
  | candidate (.approval (.invalidState _ _ _)) => .conflict
  | candidate (.notApplicable _) => .conflict
  | retriesExhausted _ _ => .conflict
  | store (.concurrentModification _ _ _) => .preconditionFailed
  | store (.unavailable _) => .serviceUnavailable
  | calculation _ => .internalServerError
  | publish _ => .internalServerError

end PublicationIndicator
