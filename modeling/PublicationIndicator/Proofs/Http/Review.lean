import PublicationIndicator.Http.Router
import PublicationIndicator.Proofs.Candidate.Independence
import PublicationIndicator.Proofs.Service.Alone
import PublicationIndicator.Proofs.Traversal

/-!
# PublicationIndicator.Proofs.Http.Review — how reviews are answered

Where the store does not fail, the status of an answer to a review depends on the version that is
stored and on the request alone, and `reviewStatus` lists what is looked at, in its order.  Only a review
that is answered with `ok` changes anything, and it changes one approval and the version
(`respond_review`).
-/

namespace PublicationIndicator

/-! ### What an approval allows -/

/-- Is the action out of place for an approval with that status? -/
def ApprovalAction.isBarred : ApprovalAction → ApprovalStatus → Bool
  | assign _, .approved | assign _, .rejected | decide _ _, .approved | decide _ _, .rejected => true
  | reopen, .new | reopen, .pending => true
  | _, _ => false

/-- Only what is not decided is assigned or decided, and only what is decided is reopened. -/
theorem ApprovalAction.isBarred_eq (action : ApprovalAction) (s : ApprovalStatus) : action.isBarred s =
    match action with
    | .assign _ | .decide _ _ => s.isTerminal
    | .unassign => false
    | .reopen => !s.isTerminal := by
  cases action <;> cases s <;> rfl

namespace Approval

variable {a : Approval} {action : ApprovalAction} (actor : Username) (time : Instant)

theorem apply_of_isBarred (h : action.isBarred a.status = true) :
    a.apply action actor time = .error (a.refusal action) := by
  rw [ApprovalAction.isBarred_eq] at h
  cases action with
  | assign assignee => exact if_pos h
  | unassign => cases h
  | decide decision reason => exact if_pos h
  | reopen =>
    have hundecided : ¬ a.status.isTerminal = true := by simpa using h
    exact if_neg hundecided

theorem exists_apply_of_not_isBarred (h : ¬ action.isBarred a.status = true) :
    ∃ a', a.apply action actor time = .ok a' := by
  rw [ApprovalAction.isBarred_eq] at h
  cases action with
  | assign assignee => exact ⟨_, if_neg h⟩
  | unassign => exact ⟨_, rfl⟩
  | decide decision reason => exact ⟨_, if_neg h⟩
  | reopen =>
    have hdecided : a.status.isTerminal = true := by simpa using h
    exact ⟨_, if_pos hdecided⟩

end Approval

/-! ### The order of checks -/

/-- The status with which a review is answered: the candidate must be there, in the version that is
expected if one is, able to earn points, with an approval of the institution that allows the action. -/
def reviewStatus (stored : Option StoredCandidate) (r : ApprovalRequest) : HttpStatus :=
  match stored with
  | none => .notFound
  | some current =>
    if r.expectedVersion.any (· ≠ current.version) then .preconditionFailed
    else if current.candidate.applicable = false then .conflict
    else
      match current.candidate.approvals.get? r.institution with
      | none => .notFound
      | some a => if r.action.isBarred a.status then .conflict else .ok

theorem any_ne_eq_isStale (r : ApprovalRequest) (version : Nat) :
    r.expectedVersion.any (· ≠ version) = Service.isStale r version := by
  rw [Service.isStale]
  cases r.expectedVersion <;> rfl

/-- Whatever the service refuses, it is not answered as if all were well. -/
theorem ServiceError.status_ne_ok (e : ServiceError) : e.status ≠ .ok := by
  unfold status
  split <;> nofun

/-- A review of the version that is stored is answered as the candidate takes it. -/
theorem reviewStatus_eq {current : StoredCandidate} {r : ApprovalRequest}
    (h : Service.isStale r current.version = false) (time : Instant) :
    reviewStatus (some current) r =
      match current.candidate.apply (.approval r time) with
      | .ok _ => .ok
      | .error e => (ServiceError.candidate e).status := by
  have hversion : ¬ r.expectedVersion.any (· ≠ current.version) = true := by
    rw [any_ne_eq_isStale, h]
    exact Bool.false_ne_true
  change _ = match current.candidate.review r time with
    | .ok _ => HttpStatus.ok
    | .error e => (ServiceError.candidate e).status
  rw [reviewStatus, if_neg hversion, Candidate.review, Approvals.apply]
  cases happlicable : current.candidate.applicable with
  | false => rfl
  | true =>
    cases happroval : current.candidate.approvals.get? r.institution with
    | none => rfl
    | some a =>
      by_cases hbarred : r.action.isBarred a.status = true
      · have happly := a.apply_of_isBarred r.actor time hbarred
        simp [happly, hbarred, Approval.refusal, ServiceError.status]
      · obtain ⟨a', happly⟩ := a.exists_apply_of_not_isBarred r.actor time hbarred
        simp [happly, hbarred]

namespace Router

open Service

variable {r : HttpRequest} {segment name : String} {request : ApprovalRequest}

/-- A review that is sent to the approvals of a candidate gets to the service, and what that says is
the answer. -/
theorem respond_of_reviews (w : Router) (time : Instant) (hmethod : r.method = .post)
    (hpath : Route.ofPath? r.path = some (.approvals segment))
    (hname : Percent.decode? segment = some name)
    (hbody : bodyOf r ApprovalRequest.decoder = .ok request) :
    w.respond r time =
      answering (updateApproval ⟨name⟩ request time) fun s => s.view.toJson := by
  simp only [respond, hpath, hmethod, write?, review, hname, hbody, Option.getD_some]

theorem run_answering {α σ : Type} (b : Session.Backend σ) (call : Session (Except ServiceError α))
    (f : α → Json) (s : σ) : (answering call f).run b s =
      (match (call.run b s).1 with
        | .ok a => .document .ok (f a)
        | .error e => .refusal e,
      (call.run b s).2) := by
  rw [answering, Session.run_bind]
  cases (call.run b s).1 <;> rfl

/-- A review is refused and changes nothing, or it is carried out on the version that is stored. -/
theorem answer_cases {store : CandidateStore} (hs : store.Filed) (id : CandidateId)
    (request : ApprovalRequest) (time : Instant) :
    let ran := (answering (updateApproval id request time) fun s => s.view.toJson).run
      CandidateStore.backend store
    (ran.1.status = reviewStatus (store.load id) request ∧ ran.1.status ≠ .ok ∧ ran.2 = store) ∨
      ∃ current next, store.load id = some current ∧ reviewStatus (some current) request = .ok ∧
        current.candidate.apply (.approval request time) = .ok next ∧
        ran = (.document .ok (StoredCandidate.mk next (current.version + 1)).view.toJson,
          ⟨store.records.insert id ⟨next, current.version + 1⟩⟩) := by
  intro ran
  have hran : ran = _ := (run_answering _ _ _ _).trans (by rw [run_updateApproval hs request time])
  cases hcurrent : store.load id with
  | none =>
    rw [hcurrent] at hran
    rw [hran]
    exact .inl ⟨rfl, nofun, rfl⟩
  | some current =>
    rw [hcurrent] at hran
    cases hstale : isStale request current.version with
    | true =>
      simp only [hstale, if_true] at hran
      rw [hran]
      refine .inl ⟨?_, nofun, rfl⟩
      rw [reviewStatus, any_ne_eq_isStale, if_pos hstale]
      rfl
    | false =>
      have hstatus := reviewStatus_eq hstale time
      cases happly : current.candidate.apply (.approval request time) with
      | error e =>
        simp only [hstale, happly] at hran hstatus
        rw [hran, hstatus]
        exact .inl ⟨rfl, ServiceError.status_ne_ok _, rfl⟩
      | ok next =>
        simp only [hstale, happly] at hran hstatus
        exact .inr ⟨current, next, rfl, hstatus, happly, hran⟩

/-- However the store came about: a review is answered with the status that `reviewStatus` says.  Unless
that is `ok`, nothing changes; otherwise the institution's approval is replaced, the candidate is kept at
its next version with all else as it was, and the answer shows it so. -/
theorem respond_review {ι : Type} [DecidableEq ι] (turns : List (Turn ι)) (w : Router) (time : Instant)
    (hmethod : r.method = .post) (hpath : Route.ofPath? r.path = some (.approvals segment))
    (hname : Percent.decode? segment = some name)
    (hbody : bodyOf r ApprovalRequest.decoder = .ok request) :
    let store := ((System.initial : System ι).play turns).store
    let stored := store.records.get? ⟨name⟩
    let answer := ((w.respond r time).run CandidateStore.backend store).1
    let after := ((w.respond r time).run CandidateStore.backend store).2
    answer.status = reviewStatus stored request ∧
      (answer.status ≠ .ok → after = store) ∧
      (answer.status = .ok → ∃ current a a', stored = some current ∧
        current.candidate.approvals.get? request.institution = some a ∧
        a.apply request.action request.actor time = .ok a' ∧
        let approvals := current.candidate.approvals.insert request.institution a'
        let next : StoredCandidate := ⟨{ current.candidate with approvals }, current.version + 1⟩
        answer.body = some next.view.toJson ∧
          after.records = store.records.insert ⟨name⟩ next) := by
  intro store stored answer after
  have hlawful : ((System.initial : System ι).play turns).Lawful :=
    System.lawful_play System.lawful_initial turns
  have hstored : store.load ⟨name⟩ = stored := (hlawful.load_eq _).trans (hlawful.kept _).symm
  have hrun : (w.respond r time).run CandidateStore.backend store = (answer, after) := rfl
  rw [respond_of_reviews w time hmethod hpath hname hbody] at hrun
  have hcases := answer_cases hlawful.filed ⟨name⟩ request time
  rw [hrun, hstored] at hcases
  rcases hcases with ⟨hstatus, hne, hafter⟩ | ⟨current, next, hcurrent, hok, happly, hran⟩
  · exact ⟨hstatus, fun _ => hafter, fun hok => absurd hok hne⟩
  · obtain ⟨hanswer, hafter⟩ := Prod.mk.inj hran
    obtain ⟨-, as, has, rfl⟩ := Candidate.review_eq_ok_iff.1 happly
    obtain ⟨a, a', ha, ha', rfl⟩ := Approvals.apply_eq_ok_iff.1 has
    rw [hanswer, hafter, hcurrent]
    exact ⟨hok.symm, fun hne => absurd rfl hne, fun _ => ⟨current, a, a', rfl, ha, ha', rfl, rfl⟩⟩

/-- The institution rejects the version that it has seen. -/
theorem respond_review_rejection :
    let facts : PublicationFacts :=
      ⟨⟨"p/1"⟩, .academicArticle, ⟨"j", .journal, .levelOne⟩, [⟨.verified "x", [⟨"a"⟩]⟩],
        by decide⟩
    let turns : List (Turn Unit) :=
      .move (.begin () (.evaluate (fun id => .ok [.blank id]) 3 facts)) ::
        List.replicate 3 (.move (.proceed () (.ok ())))
    let r : HttpRequest := ⟨.post, "/api/v1/candidates/p%2F1/approvals", some "application/json",
      "\x7b\"institution_id\":\"a\",\"actor\":\"c\",\"expected_version\":1," ++
        "\"action\":\x7b\"type\":\"decide\",\"decision\":\"rejected\"\x7d\x7d"⟩
    let request : ApprovalRequest :=
      ⟨⟨"a"⟩, .decide .rejected none, ⟨"c"⟩, some 1⟩
    let time : Instant := ⟨⟨2026, 1, 1, by decide, by decide⟩, 0, 0, 0⟩
    let w : Router := ⟨fun id => .ok [.blank id], 3, true⟩
    let store := ((System.initial : System Unit).play turns).store
    let answer := ((w.respond r time).run CandidateStore.backend store).1
    let after := ((w.respond r time).run CandidateStore.backend store).2
    r.method = .post ∧ Route.ofPath? r.path = some (.approvals "p%2F1") ∧
      Percent.decode? "p%2F1" = some "p/1" ∧ bodyOf r ApprovalRequest.decoder = .ok request ∧
      answer.status = .ok ∧ ∃ next, answer.body = some (StoredCandidate.view next).toJson ∧
        next.version = 2 ∧ after.records = store.records.insert ⟨"p/1"⟩ next := by
  intro facts turns r request time w store answer after
  have hmethod : r.method = .post := rfl
  have hpath : Route.ofPath? r.path = some (.approvals "p%2F1") := by decide +kernel
  have hname : Percent.decode? "p%2F1" = some "p/1" := by decide +kernel
  have hbody : bodyOf r ApprovalRequest.decoder = .ok request :=
    toOption_eq_some_iff.1 (by decide +kernel)
  have hkept : (store.records.get? ⟨"p/1"⟩).map (fun s => (s.version, reviewStatus (some s) request)) =
      some (1, .ok) := by decide +kernel
  -- from here on it does not matter what was asked and what is stored
  clear_value turns r request
  obtain ⟨current, hcurrent, hseen⟩ := Option.map_eq_some_iff.1 hkept
  obtain ⟨hversion, hok⟩ := Prod.mk.inj hseen
  obtain ⟨hstatus, -, hdone⟩ := respond_review turns w time hmethod hpath hname hbody
  rw [hcurrent, hok] at hstatus
  obtain ⟨seen, a, a', hstored, -, -, hshown, hafter⟩ := hdone hstatus
  obtain rfl : current = seen := Option.some.inj (hcurrent.symm.trans hstored)
  exact ⟨hmethod, hpath, hname, hbody, hstatus, _, hshown, congrArg (· + 1) hversion, hafter⟩

end Router

end PublicationIndicator
