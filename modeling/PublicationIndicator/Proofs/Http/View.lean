import PublicationIndicator.Proofs.Http.Percent
import PublicationIndicator.Proofs.Http.Review
import PublicationIndicator.Proofs.Wire.RoundTrip

/-!
# PublicationIndicator.Proofs.Http.View — how stored candidates are read

A candidate is read from a path that ends in its name, with percent signs for what cannot stand there.
Any name comes back from its segment, so that every stored candidate is shown, but for two: the empty name
is no segment, and one name is that of the place where publications are evaluated (`respond_view`).
-/

namespace PublicationIndicator

namespace Route

/-- The path that a candidate is read from. -/
def viewPath (id : String) : String := "/api/v1/candidates/" ++ Percent.encode id

theorem toList_viewPath (id : String) :
    (viewPath id).toList = "/api/v1/candidates".toList ++ '/' :: (Percent.encode id).toList := by
  have hslash : "/api/v1/candidates/".toList = "/api/v1/candidates".toList ++ ['/'] := by
    decide +kernel
  calc (viewPath id).toList
      = "/api/v1/candidates/".toList ++ (Percent.encode id).toList := String.toList_append
    _ = "/api/v1/candidates".toList ++ '/' :: (Percent.encode id).toList := by
      rw [hslash, List.append_assoc, List.singleton_append]

theorem ofCandidateSegments?_singleton (segment : String) : ofCandidateSegments? [segment] =
    if segment = "evaluations" then some evaluations
    else if segment = "" then none else some (candidate segment) := by
  by_cases h : segment = "evaluations"
  · rw [h]
    rfl
  · rw [if_neg h, ofCandidateSegments?]
    exact h

/-- The place of that path is a candidate, unless the name is that of another place or empty. -/
theorem ofPath?_viewPath (id : String) : ofPath? (viewPath id) =
    if id = "evaluations" then some evaluations
    else if id = "" then none else some (candidate (Percent.encode id)) := by
  have hsegments : segments (viewPath id).toList =
      segments "/api/v1/candidates".toList ++ [(Percent.encode id).toList] := by
    rw [toList_viewPath, segments_append,
      segments_of_not_mem fun hslash => (Percent.of_mem_encode hslash).1 rfl]
  have hfront : (segments "/api/v1/candidates".toList).map String.ofList =
      ["", "api", "v1", "candidates"] := by decide +kernel
  have hplace : ofPath? (viewPath id) = ofCandidateSegments? [Percent.encode id] := by
    rw [ofPath?, hsegments, List.map_append, hfront, List.map_singleton, String.ofList_toList]
    rfl
  have hevaluations : Percent.encode "evaluations" = "evaluations" := by decide +kernel
  have hempty : Percent.encode "" = "" := by decide +kernel
  rw [hplace, ofCandidateSegments?_singleton]
  -- a name is written as one of the two texts only if it is that text
  have hiff (s : String) (hs : Percent.encode s = s) : Percent.encode id = s ↔ id = s := by
    rw [← Percent.encode_inj (s := id), hs]
  simp only [hiff _ hevaluations, hiff _ hempty]

/-- A request with that path as its target is for that path. -/
theorem path?_viewPath {id : String} (h : (viewPath id).utf8ByteSize ≤ Target.lengthLimit) :
    Target.path? (viewPath id) = some (viewPath id) := by
  have hfront : "/api/v1/candidates".toList = '/' :: "api/v1/candidates".toList := by decide +kernel
  have hchars : ("api/v1/candidates".toList ++ ['/']).all Target.isPathChar = true := by
    decide +kernel
  have hlist : (viewPath id).toList =
      '/' :: (("api/v1/candidates".toList ++ ['/']) ++ (Percent.encode id).toList) := by
    rw [toList_viewPath, hfront, List.append_assoc]
    rfl
  refine Target.path?_of_forall hlist (fun c hc => ?_) h
  rcases List.mem_append.1 hc with hc | hc
  · exact List.all_eq_true.1 hchars c hc
  · exact (Percent.of_mem_encode hc).2

end Route

/-- The request to evaluate a publication. -/
def HttpRequest.evaluating (facts : PublicationFacts) : HttpRequest :=
  ⟨.post, "/api/v1/candidates/evaluations", some "application/json", facts.toJson.compact⟩

namespace Router

open Service

variable {r : HttpRequest} {p : PublicationId}

/-! ### What gets to the service -/

theorem bodyOf_evaluating (facts : PublicationFacts) :
    bodyOf (.evaluating facts) PublicationFacts.decoder = .ok facts := by
  have hjson : (HttpRequest.evaluating facts).contentType.any MediaType.isJson = true := by
    change MediaType.isJson "application/json" = true
    decide +kernel
  have hbody : PublicationFacts.decoder.ofFrontOfText facts.toJson.compact = .ok facts :=
    facts.stands.ofFrontOfText_compact
  rw [bodyOf, if_pos hjson, HttpRequest.evaluating, hbody]

/-- The service evaluates the facts of the request. -/
theorem respond_evaluating (w : Router) (facts : PublicationFacts) (time : Instant) :
    w.respond (.evaluating facts) time =
      answering (Service.evaluate w.provider w.attempts facts) EvaluationReport.toJson := by
  have hpath : Route.ofPath? (HttpRequest.evaluating facts).path = some .evaluations := by
    change Route.ofPath? "/api/v1/candidates/evaluations" = some .evaluations
    decide +kernel
  have hmethod : (HttpRequest.evaluating facts).method = .post := rfl
  simp only [respond, hpath, hmethod, write?, evaluate, bodyOf_evaluating, Option.getD_some]

/-- The service is asked for the candidate, unless its name is that of another place or empty. -/
theorem respond_of_reads (w : Router) (time : Instant) (hmethod : r.method = .get)
    (hpath : r.path = Route.viewPath p.text) :
    w.respond r time =
      if p.text = "evaluations" then .done (.empty .methodNotAllowed)
      else if p.text = "" then .done (.empty .notFound)
      else answering (Service.get p.candidate) fun s => s.view.toJson := by
  simp only [respond, hpath, Route.ofPath?_viewPath, hmethod]
  split_ifs
  · rfl
  · rfl
  · simp only [read?, view, Percent.decode?_encode, Option.getD_some]
    rfl

theorem run_get {store : CandidateStore} {id : CandidateId} {stored : StoredCandidate}
    (h : store.load id = some stored) :
    (Service.get id).run CandidateStore.backend store = (.ok stored, store) := by
  simp [Service.get, Session.run, CandidateStore.backend, h]

/-! ### What is shown -/

/-- However it came to be stored, the candidate of a publication is shown to whoever reads from the path
that ends in its name, and nothing changes.  Only if it has the name of the place where publications are
evaluated, that place refuses to be read from, and if the name is empty there is no such place.  A request
is for that path if its target is, as long as a target may be that long. -/
theorem respond_view (w : Router) (time : Instant) {store : CandidateStore} {stored : StoredCandidate}
    (hstored : store.load p.candidate = some stored) (hmethod : r.method = .get)
    (hpath : r.path = Route.viewPath p.text) :
    (w.respond r time).run CandidateStore.backend store =
      (if p.text = "evaluations" then .empty .methodNotAllowed
        else if p.text = "" then .empty .notFound
        else .document .ok stored.view.toJson, store) ∧
    ((Route.viewPath p.text).utf8ByteSize ≤ Target.lengthLimit →
      Target.path? (Route.viewPath p.text) = some (Route.viewPath p.text)) := by
  refine ⟨?_, Route.path?_viewPath⟩
  rw [respond_of_reads w time hmethod hpath]
  split_ifs
  · rfl
  · rfl
  · rw [run_answering, run_get hstored]

/-- A publication whose name has a slash, a blank, a percent sign and a letter beyond ASCII is evaluated,
and its candidate is shown. -/
theorem respond_view_spelled :
    let facts : PublicationFacts :=
      ⟨⟨"a/b c%\u00fc"⟩, .academicArticle, ⟨"j", .journal, .levelOne⟩, [⟨.verified "x", [⟨"a"⟩]⟩],
        by decide⟩
    let w : Router := ⟨fun id => .ok [.blank id], 3, true⟩
    let time : Instant := ⟨⟨2026, 1, 1, by decide, by decide⟩, 0, 0, 0⟩
    let posted := (w.respond (.evaluating facts) time).run CandidateStore.backend .empty
    let r : HttpRequest := ⟨.get, "/api/v1/candidates/a%2fb%20c%25%c3%bc", none, ""⟩
    posted.1.status = .ok ∧ r.path = Route.viewPath facts.publication.text ∧
      ∃ stored, posted.2.load facts.candidate = some stored ∧
        (w.respond r time).run CandidateStore.backend posted.2 =
          (.document .ok stored.view.toJson, posted.2) := by
  intro facts w time posted r
  have hposted : posted = _ :=
    (congrArg (Session.run _ · _) (respond_evaluating w facts time)).trans (run_answering _ _ _ _)
  have hstatus : posted.1.status = .ok := by
    rw [hposted]
    decide +kernel
  have hpath : r.path = Route.viewPath facts.publication.text := by decide +kernel
  have hsome : (posted.2.load facts.candidate).isSome = true := by
    rw [hposted]
    decide +kernel
  have hname : facts.publication.text = "a/b c%\u00fc" := rfl
  clear_value posted
  obtain ⟨stored, hstored⟩ := Option.isSome_iff_exists.1 hsome
  have hview := (respond_view w time hstored rfl hpath).1
  rw [hname] at hview
  exact ⟨hstatus, hpath, stored, hstored, hview⟩

/-- Two publications whose candidates are kept and never shown. -/
theorem evaluated_not_viewed :
    let facts (p : String) : PublicationFacts :=
      ⟨⟨p⟩, .academicArticle, ⟨"j", .journal, .levelOne⟩, [⟨.verified "x", [⟨"a"⟩]⟩],
        by decide⟩
    let w : Router := ⟨fun id => .ok [.blank id], 3, true⟩
    let time : Instant := ⟨⟨2026, 1, 1, by decide, by decide⟩, 0, 0, 0⟩
    let posted (p : String) := (w.respond (.evaluating (facts p)) time).run CandidateStore.backend .empty
    let viewed (p : String) :=
      (w.respond ⟨.get, Route.viewPath p, none, ""⟩ time).run CandidateStore.backend (posted p).2
    let kept (p : String) := ((posted p).2.load ⟨p⟩).isSome
    ((posted "evaluations").1.status = .ok ∧ kept "evaluations" = true ∧
      (viewed "evaluations").1.status = .methodNotAllowed) ∧
    (posted "").1.status = .ok ∧ kept "" = true ∧ (viewed "").1.status = .notFound := by
  intro facts w time posted viewed kept
  have hposted (p : String) : posted p = _ :=
    (congrArg (Session.run _ · _) (respond_evaluating w (facts p) time)).trans (run_answering _ _ _ _)
  have hviewed (p : String) : viewed p = _ :=
    congrArg (Session.run _ · _) (respond_of_reads (p := ⟨p⟩) w time rfl rfl)
  simp only [kept]
  rw [hviewed, hviewed, hposted, hposted]
  exact ⟨⟨by decide +kernel, by decide +kernel, rfl⟩, by decide +kernel, by decide +kernel, rfl⟩

end Router

end PublicationIndicator
