import PublicationIndicator.Proofs.Candidate.Independence
import PublicationIndicator.Proofs.Candidate.Recalculation

/-!
# PublicationIndicator.Proofs.Candidate.Commutation — events that may change places

A request does not look at the organizations that are involved in an approval, and new points change
nothing else about an approval that is there before and after them.  So the two may change places on
such an approval, and requests on the approvals of two institutions may always do so: the candidate is
the same in the end, and each request comes to the same (`events_commute`).
-/

namespace PublicationIndicator

/-- Entries under two keys are put in in either order. -/
theorem SortedMap.insert_comm {κ α : Type} [Keyed κ] (m : SortedMap κ α) {k k' : κ} (h : k ≠ k')
    (v v' : α) : (m.insert k v).insert k' v' = (m.insert k' v').insert k v := by
  refine ext_get? fun j => ?_
  by_cases hk : j = k
  · subst hk
    rw [get?_insert_of_ne h, get?_insert_self, get?_insert_self]
  · by_cases hk' : j = k'
    · subst hk'
      rw [get?_insert_self, get?_insert_of_ne hk, get?_insert_self]
    · rw [get?_insert_of_ne hk', get?_insert_of_ne hk, get?_insert_of_ne hk, get?_insert_of_ne hk']

/-- What an actor asks for has nothing to do with the organizations that are involved. -/
theorem Approval.apply_involving (a : Approval) (involved : SortedSet OrganizationId)
    (action : ApprovalAction) (actor : Username) (time : Instant) :
    apply { a with involvedOrganizations := involved } action actor time =
      (a.apply action actor time).map fun a' => { a' with involvedOrganizations := involved } := by
  cases action with
  | assign assignee =>
    rw [apply, apply, assign, assign]
    split <;> rfl
  | unassign => rfl
  | decide decision reason =>
    rw [apply, apply, decide, decide]
    split <;> rfl
  | reopen =>
    rw [apply, apply, reopen, reopen]
    split <;> rfl

namespace Candidate

variable {c : Candidate} {points : PointCalculation} {r s : ApprovalRequest}

/-! ### A request and new points -/

theorem ruling_of_get? {a : Approval} (happlicable : c.applicable = true)
    (ha : c.approvals.get? r.institution = some a) (time : Instant) :
    c.ruling r time = (a.apply r.action r.actor time).mapError .approval := by
  rw [ruling, if_pos happlicable, ha]

/-- On an approval that is there before and after, new points change nothing about a request but the
organizations that are involved. -/
theorem ruling_recalculate {a : Approval} {p : InstitutionPoints} (happlicable : c.applicable = true)
    (ha : c.approvals.get? r.institution = some a)
    (hp : points.institutions.reverse.find? (fun p => p.institution = r.institution) = some p)
    (time : Instant) : (c.recalculate points).ruling r time =
      (c.ruling r time).map fun a' => { a' with involvedOrganizations := p.involvedOrganizations } := by
  have hpi : p.institution = r.institution := by simpa using List.find?_some hp
  have hget : (c.recalculate points).approvals.get? r.institution =
      some { a with involvedOrganizations := p.involvedOrganizations } := by
    rw [recalculate, Approvals.get?_reconcile, hp, Option.map_some, Approvals.following, hpi, ha]
  have hafter := ruling_of_get? (c := c.recalculate points) rfl hget time
  rw [hafter, Approval.apply_involving, ruling_of_get? happlicable ha time]
  cases a.apply r.action r.actor time <;> rfl

theorem apply_recalculate_comm (happlicable : c.applicable = true)
    (ha : r.institution ∈ c.approvals.keys) (hp : r.institution ∈ points.institutionIds)
    (time : Instant) :
    (c.apply (.approval r time) >>= fun c' => c'.apply (.pointsCalculated points)) =
      (c.apply (.pointsCalculated points) >>= fun c' => c'.apply (.approval r time)) := by
  obtain ⟨a, ha⟩ := SortedMap.mem_keys_iff.1 ha
  obtain ⟨p, hp⟩ := Option.isSome_iff_exists.1 (Approvals.isSome_find?_iff.2 hp)
  change (c.review r time).bind (fun c' => .ok (c'.recalculate points)) =
    (c.recalculate points).review r time
  rw [review_eq_map_ruling, review_eq_map_ruling, ruling_recalculate happlicable ha hp]
  cases c.ruling r time with
  | error e => rfl
  | ok a' =>
    have hreconcile := Approvals.reconcile_insert_of_find? c.approvals a' hp
    change Except.ok _ = Except.ok _
    rw [recalculate, hreconcile]
    rfl

/-! ### Requests on two approvals -/

theorem step_of_ruling_error {e : CandidateError} {time : Instant} (h : c.ruling r time = .error e) :
    c.step (.event (.approval r time)) = c := by
  rw [step, apply, review_eq_map_ruling, h]
  rfl

theorem step_of_ruling_ok {a : Approval} {time : Instant} (h : c.ruling r time = .ok a) :
    c.step (.event (.approval r time)) =
      { c with approvals := c.approvals.insert r.institution a } := by
  rw [step, apply, review_eq_map_ruling, h]
  rfl

/-- A request on one approval does not bear on a request on another one. -/
theorem agreeOn_step_approval (c : Candidate) (h : r.institution ≠ s.institution) (time : Instant) :
    AgreeOn r.institution (c.step (.event (.approval s time))) c :=
  (agreeOn_refl r.institution c).step_other (by simpa [CandidateEvent.concerns] using h.symm)

theorem step_approval_comm (c : Candidate) (h : r.institution ≠ s.institution) (t u : Instant) :
    (c.step (.event (.approval r t))).step (.event (.approval s u)) =
      (c.step (.event (.approval s u))).step (.event (.approval r t)) := by
  have hr := (agreeOn_step_approval c h u).ruling_eq t
  have hs := (agreeOn_step_approval c h.symm t).ruling_eq u
  cases hrr : c.ruling r t with
  | error e => rw [step_of_ruling_error hrr, step_of_ruling_error (hr.trans hrr)]
  | ok a =>
    cases hss : c.ruling s u with
    | error e => rw [step_of_ruling_error hss, step_of_ruling_error (hs.trans hss)]
    | ok b =>
      -- both are carried out, and each finds its own approval as it was
      rw [step_of_ruling_ok (hs.trans hss), step_of_ruling_ok (hr.trans hrr), step_of_ruling_ok hrr,
        step_of_ruling_ok hss, SortedMap.insert_comm _ h]

/-- New points and a request may change places if the candidate can earn points and the institution has
an approval and earns points: in either order the request is refused for the same reason, or the
candidate is the same.  Requests on the approvals of two institutions may always change places. -/
theorem events_commute (c : Candidate) :
    (∀ (points : PointCalculation) (r : ApprovalRequest) (time : Instant), c.applicable = true →
      r.institution ∈ c.approvals.keys → r.institution ∈ points.institutionIds →
      (c.apply (.approval r time) >>= fun c' => c'.apply (.pointsCalculated points)) =
        (c.apply (.pointsCalculated points) >>= fun c' => c'.apply (.approval r time))) ∧
    ∀ (r s : ApprovalRequest) (t u : Instant), r.institution ≠ s.institution →
      c.follow [.approval r t, .approval s u] = c.follow [.approval s u, .approval r t] ∧
      c.outcomes [.approval r t, .approval s u] =
        (c.outcomes [.approval s u, .approval r t]).reverse := by
  refine ⟨fun points r time happlicable ha hp => apply_recalculate_comm happlicable ha hp time,
    fun r s t u h => ⟨step_approval_comm c h t u, ?_⟩⟩
  have hr : (c.step (.event (.approval s u))).outcome (.approval r t) = c.outcome (.approval r t) :=
    (agreeOn_step_approval c h u).outcome_eq (by simp [CandidateEvent.aimsAt])
  have hs : (c.step (.event (.approval r t))).outcome (.approval s u) = c.outcome (.approval s u) :=
    (agreeOn_step_approval c h.symm t).outcome_eq (by simp [CandidateEvent.aimsAt])
  change [(_, c.outcome (.approval r t)), (_, (c.step (.event (.approval r t))).outcome (.approval s u))] =
    [(_, (c.step (.event (.approval s u))).outcome (.approval r t)), (_, c.outcome (.approval s u))]
  rw [hr, hs]

/-- A rejection meets new points, and a request on the other institution's approval that is refused. -/
theorem events_commute_rejection :
    let a : InstitutionPoints := ⟨⟨"a"⟩, .one, [⟨.verified "x", ⟨"a.1"⟩, .one⟩]⟩
    let a' : InstitutionPoints := ⟨⟨"a"⟩, .one, [⟨.verified "x", ⟨"a.2"⟩, .one⟩]⟩
    let b : InstitutionPoints := ⟨⟨"b"⟩, .one, []⟩
    let points (ps : List InstitutionPoints) : PointCalculation :=
      ⟨.academicArticle, ⟨"j", .journal, .levelOne⟩, true, .ofTenths 13, .one, 2, .one, ps⟩
    let time : Instant := ⟨⟨2026, 1, 1, by decide, by decide⟩, 0, 0, 0⟩
    let c := create ⟨"p"⟩ (points [a, b])
    let r : ApprovalRequest := ⟨⟨"a"⟩, .decide .rejected (some "no share"), ⟨"curator"⟩, none⟩
    let s : ApprovalRequest := ⟨⟨"b"⟩, .reopen, ⟨"curator"⟩, none⟩
    c.applicable = true ∧ r.institution ∈ c.approvals.keys ∧
      r.institution ∈ (points [a']).institutionIds ∧ r.institution ≠ s.institution ∧
      (c.apply (.approval r time) >>= fun c' => c'.apply (.pointsCalculated (points [a']))) =
        (c.apply (.pointsCalculated (points [a'])) >>= fun c' => c'.apply (.approval r time)) ∧
      c.follow [.approval r time, .approval s time] = c.follow [.approval s time, .approval r time] ∧
      c.outcomes [.approval r time, .approval s time] =
        (c.outcomes [.approval s time, .approval r time]).reverse := by
  intro a a' b points time c r s
  have happlicable : c.applicable = true := rfl
  have ha : r.institution ∈ c.approvals.keys := by decide
  have hp : r.institution ∈ (points [a']).institutionIds := by decide
  have h : r.institution ≠ s.institution := by decide
  obtain ⟨hpoints, hrequests⟩ := events_commute c
  exact ⟨happlicable, ha, hp, h, hpoints (points [a']) r time happlicable ha hp, hrequests r s time time h⟩

end Candidate

end PublicationIndicator
