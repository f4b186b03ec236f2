import PublicationIndicator.Http.Percent

/-!
# PublicationIndicator.Http.Route — the places that requests can go to

A path is compared segment by segment.  A fixed segment is preferred to the name of a candidate, which
stands in a segment of its own with percent signs for what cannot stand there.  At the end of a path
there must be a name; in the middle it may be empty.
-/

namespace PublicationIndicator

/-- The places that requests can go to; names of candidates are as they stand in the path. -/
inductive Route where
  | evaluations
  | candidate (segment : String)
  | approvals (segment : String)
  | health
  | ready
  | metrics
deriving DecidableEq

namespace Route

/-- The segments of a path, which slashes stand between. -/
def segments : List Char → List (List Char)
  | [] => [[]]
  | c :: rest =>
    if c = '/' then [] :: segments rest
    else
      match segments rest with
      | [] => [[c]]
      | s :: more => (c :: s) :: more

/-- The place of a path below that of the candidates. -/
def ofCandidateSegments? : List String → Option Route
  | ["evaluations"] => some evaluations
  | [segment] => if segment = "" then none else some (candidate segment)
  | [segment, "approvals"] => some (approvals segment)
  | _ => none

/-- The place of a path. -/
def ofPath? (path : String) : Option Route :=
  match (segments path.toList).map String.ofList with
  | ["", "health"] => some health
  | ["", "ready"] => some ready
  | ["", "metrics"] => some metrics
  | "" :: "api" :: "v1" :: "candidates" :: rest => ofCandidateSegments? rest
  | _ => none

end Route

end PublicationIndicator
