import PublicationIndicator.Proofs.Candidate.Coherence

/-!
# PublicationIndicator.Proofs.Candidate.Independence — institutions do not interfere

What becomes of one institution's approval does not depend on what is asked of the others.  Two
candidates that an institution cannot tell apart (`Candidate.AgreeOn`) stay so when one of them is sent
a request that is not the institution's business, and when both are sent the same event that is.  So
all requests on other approvals may be taken out of a history (`independent_run_create`).
-/

namespace PublicationIndicator

namespace CandidateEvent

/-- Is it the institution's business?  Only requests on the approvals of others are not. -/
def concerns (i : OrganizationId) : CandidateEvent → Bool
  | approval r _ => r.institution = i
  | _ => true

/-- Is it a request on the institution's approval? -/
def aimsAt (i : OrganizationId) : CandidateEvent → Bool
  | approval r _ => r.institution = i
  | _ => false

end CandidateEvent

namespace Candidate

/-- Does the candidate take the event, or why not? -/
def outcome (c : Candidate) (e : CandidateEvent) : Except CandidateError Unit :=
  (c.apply e).map fun _ => ()

/-- The events with what each comes to after those before it. -/
def outcomes (c : Candidate) : List CandidateEvent →
    List (CandidateEvent × Except CandidateError Unit)
  | [] => []
  | e :: rest => (e, c.outcome e) :: (c.step (.event e)).outcomes rest

/-- The candidate after some events; those that are refused change nothing. -/
def follow (c : Candidate) (es : List CandidateEvent) : Candidate := c.run (es.map .event)

theorem follow_cons (c : Candidate) (e : CandidateEvent) (es : List CandidateEvent) :
    c.follow (e :: es) = (c.step (.event e)).follow es := rfl

/-- The institution cannot tell the candidates apart. -/
structure AgreeOn (i : OrganizationId) (c d : Candidate) : Prop where
  id : c.id = d.id
  applicable : c.applicable = d.applicable
  points : c.points = d.points
  approval : c.approvals.get? i = d.approvals.get? i

variable {i : OrganizationId} {c d : Candidate} {e : CandidateEvent}

theorem agreeOn_refl (i : OrganizationId) (c : Candidate) : AgreeOn i c c := ⟨rfl, rfl, rfl, rfl⟩

/-! ### One event -/

/-- What a request makes of the approval that it names. -/
def ruling (c : Candidate) (r : ApprovalRequest) (time : Instant) : Except CandidateError Approval :=
  if c.applicable then
    match c.approvals.get? r.institution with
    | none => .error (.approval (.notFound r.institution))
    | some a => (a.apply r.action r.actor time).mapError .approval
  else .error (.notApplicable c.id)

/-- A request touches one approval, and what becomes of that rests on nothing else. -/
theorem review_eq_map_ruling (c : Candidate) (r : ApprovalRequest) (time : Instant) :
    c.review r time = (c.ruling r time).map fun a =>
      { c with approvals := c.approvals.insert r.institution a } := by
  unfold Candidate.review ruling Approvals.apply
  by_cases happ : c.applicable = true
  · rw [if_pos happ, if_pos happ]
    cases c.approvals.get? r.institution with
    | none => rfl
    | some a =>
      dsimp only
      cases a.apply r.action r.actor time <;> rfl
  · rw [if_neg happ, if_neg happ]
    rfl

/-- A request on another approval leaves the institution's alone, whether it is refused or not. -/
theorem AgreeOn.step_other (h : AgreeOn i c d) (he : e.concerns i = false) :
    AgreeOn i (c.step (.event e)) d := by
  cases e with
  | pointsCalculated points => cases he
  | notApplicable => cases he
  | approval r time =>
    have hne : i ≠ r.institution := by
      intro hi
      simp [CandidateEvent.concerns, hi] at he
    rw [step, apply, review_eq_map_ruling]
    cases c.ruling r time with
    | error err => exact h
    | ok a =>
      have hget : (c.approvals.insert r.institution a).get? i = c.approvals.get? i :=
        SortedMap.get?_insert_of_ne hne
      exact ⟨h.id, h.applicable, h.points, hget.trans h.approval⟩

theorem AgreeOn.ruling_eq {r : ApprovalRequest} (h : AgreeOn r.institution c d) (time : Instant) :
    c.ruling r time = d.ruling r time := by
  rw [ruling, ruling, h.id, h.applicable, h.approval]

/-- Reconciling an institution's approval with new points looks at no other approval. -/
theorem AgreeOn.get?_reconcile (h : AgreeOn i c d) (points : PointCalculation) :
    (c.approvals.reconcile points).get? i = (d.approvals.reconcile points).get? i := by
  rw [Approvals.get?_reconcile, Approvals.get?_reconcile]
  refine Option.map_congr fun p hp => ?_
  have hpi : p.institution = i := by simpa using List.find?_some hp
  rw [Approvals.following, Approvals.following, hpi, h.approval]

/-- An event that is the institution's business changes both candidates alike. -/
theorem AgreeOn.step (h : AgreeOn i c d) (he : e.concerns i = true) :
    AgreeOn i (c.step (.event e)) (d.step (.event e)) := by
  cases e with
  | pointsCalculated points => exact ⟨h.id, rfl, rfl, h.get?_reconcile points⟩
  | notApplicable => exact ⟨h.id, rfl, h.points, h.approval⟩
  | approval r time =>
    obtain rfl : r.institution = i := by simpa [CandidateEvent.concerns] using he
    rw [Candidate.step, Candidate.step, apply, apply, review_eq_map_ruling, review_eq_map_ruling,
      h.ruling_eq]
    cases d.ruling r time with
    | error err => exact h
    | ok a =>
      have hget (as : Approvals) : (as.insert r.institution a).get? r.institution = some a :=
        SortedMap.get?_insert_self _ _ _
      exact ⟨h.id, h.applicable, h.points, (hget _).trans (hget _).symm⟩

theorem AgreeOn.outcome_eq (h : AgreeOn i c d) (he : e.aimsAt i = true) :
    c.outcome e = d.outcome e := by
  cases e with
  | pointsCalculated points => cases he
  | notApplicable => cases he
  | approval r time =>
    obtain rfl : r.institution = i := by simpa [CandidateEvent.aimsAt] using he
    rw [outcome, outcome, apply, apply, review_eq_map_ruling, review_eq_map_ruling, h.ruling_eq]
    cases d.ruling r time <;> rfl

/-! ### Histories -/

theorem AgreeOn.follow (h : AgreeOn i c d) (es : List CandidateEvent) :
    AgreeOn i (c.follow es) (d.follow (es.filter (·.concerns i))) := by
  induction es generalizing c d with
  | nil => exact h
  | cons e rest ih =>
    rw [follow_cons, List.filter_cons]
    by_cases he : e.concerns i = true
    · rw [if_pos he, follow_cons]
      exact ih (h.step he)
    · rw [if_neg he]
      exact ih (h.step_other (by simpa using he))

theorem AgreeOn.outcomes (h : AgreeOn i c d) (es : List CandidateEvent) :
    (c.outcomes es).filter (·.1.aimsAt i) =
      (d.outcomes (es.filter (·.concerns i))).filter (·.1.aimsAt i) := by
  induction es generalizing c d with
  | nil => rfl
  | cons e rest ih =>
    rw [Candidate.outcomes, List.filter_cons, List.filter_cons]
    by_cases he : e.concerns i = true
    · have hrest := ih (h.step he)
      rw [if_pos he, Candidate.outcomes, List.filter_cons]
      by_cases ha : e.aimsAt i = true
      · rw [if_pos ha, if_pos ha, h.outcome_eq ha, hrest]
      · rw [if_neg ha, if_neg ha, hrest]
    · have ha : ¬ e.aimsAt i = true := by
        cases e <;> simp_all [CandidateEvent.concerns, CandidateEvent.aimsAt]
      rw [if_neg ha, if_neg he]
      exact ih (h.step_other (by simpa using he))

/-- An institution's approval, the points, whether the candidate is applicable, and what comes of each
request on that approval are the same if nothing had been asked of any other institution. -/
theorem independent_run_create (publication : PublicationId) (points : PointCalculation)
    (i : OrganizationId) (es : List CandidateEvent) :
    let c := create publication points
    let own := es.filter (·.concerns i)
    (c.follow es).approvals.get? i = (c.follow own).approvals.get? i ∧
      (c.follow es).points = (c.follow own).points ∧
      (c.follow es).applicable = (c.follow own).applicable ∧
      (c.outcomes es).filter (·.1.aimsAt i) = (c.outcomes own).filter (·.1.aimsAt i) := by
  intro c own
  have h := agreeOn_refl i c
  exact ⟨(h.follow es).approval, (h.follow es).points, (h.follow es).applicable, h.outcomes es⟩

end Candidate

end PublicationIndicator
