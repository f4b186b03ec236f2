import PublicationIndicator.Proofs.Candidate.Coherence

/-!
# PublicationIndicator.Proofs.Candidate.Decision — what becomes of a decision

The verdict of an approval is what it says of the institution's decision.  An institution that has
decided keeps its verdict through every event but two: a request to reopen its approval, and points
among which it earns none (`verdict?_of_not_releases`).  Until then it cannot decide again
(`verdict?_of_decides`), and if it loses its points and earns some again, it starts anew
(`get?_of_regained`).
-/

namespace PublicationIndicator

/-! ### One approval -/

/-- What an approval says of the institution's decision. -/
structure Verdict where
  status : ApprovalStatus
  finalizedBy : Option Username
  finalizedDate : Option Instant
  reason : Option String
deriving DecidableEq

/-- What is recorded of a decision; a reason is kept for a rejection only. -/
def ApprovalDecision.verdict (d : ApprovalDecision) (actor : Username) (time : Instant)
    (reason : Option String) : Verdict :=
  ⟨d.status, some actor, some time, if d = .rejected then reason else none⟩

theorem ApprovalDecision.isTerminal_verdict (d : ApprovalDecision) (actor : Username) (time : Instant)
    (reason : Option String) : (d.verdict actor time reason).status.isTerminal = true := by
  cases d <;> rfl

namespace Approval

/-- The approval's verdict. -/
def verdict (a : Approval) : Verdict := ⟨a.status, a.finalizedBy, a.finalizedDate, a.reason⟩

variable {a a' : Approval} {actor : Username} {time : Instant}

/-- Nothing but reopening it changes what a decided approval says. -/
theorem verdict_apply {action : ApprovalAction} (h : a.apply action actor time = .ok a')
    (ht : a.status.isTerminal = true) (hr : action ≠ .reopen) : a'.verdict = a.verdict := by
  cases action with
  | assign assignee =>
    rw [apply, assign, if_pos ht] at h
    cases h
  | unassign =>
    cases h
    simp [verdict, unassign, ht]
  | decide decision reason =>
    rw [apply, decide, if_pos ht] at h
    cases h
  | reopen => exact absurd rfl hr

/-- A decision is recorded, and only where none is. -/
theorem verdict_decide {decision : ApprovalDecision} {reason : Option String}
    (h : a.apply (.decide decision reason) actor time = .ok a') :
    ¬ a.status.isTerminal = true ∧ a'.verdict = decision.verdict actor time reason := by
  rw [apply, decide] at h
  by_cases ht : a.status.isTerminal = true
  · rw [if_pos ht] at h
    cases h
  · rw [if_neg ht] at h
    cases h
    exact ⟨ht, rfl⟩

end Approval

/-! ### Events -/

namespace CandidateEvent

/-- Does the institution decide, so that `v` is to be recorded? -/
def Decides (i : OrganizationId) (v : Verdict) : CandidateEvent → Prop
  | approval r time => r.institution = i ∧ ∃ decision reason,
      r.action = .decide decision reason ∧ v = decision.verdict r.actor time reason
  | _ => False

/-- Is the institution's approval reopened, or does the institution earn nothing now? -/
def Releases (i : OrganizationId) : CandidateEvent → Prop
  | approval r _ => r.institution = i ∧ r.action = .reopen
  | pointsCalculated points => i ∉ points.institutionIds
  | notApplicable => False

end CandidateEvent

namespace Candidate

/-- What is recorded of the institution's decision, if it has an approval. -/
def verdict? (c : Candidate) (i : OrganizationId) : Option Verdict :=
  (c.approvals.get? i).map Approval.verdict

variable {c c' : Candidate} {e : CandidateEvent} {i : OrganizationId} {v : Verdict}

/-- A decision that is taken is recorded, and the institution had not decided before. -/
theorem verdict?_of_decides (h : c.apply e = .ok c') (he : e.Decides i v) :
    c'.verdict? i = some v ∧ ∀ u, c.verdict? i = some u → ¬ u.status.isTerminal = true := by
  cases e with
  | pointsCalculated points => cases he
  | notApplicable => cases he
  | approval r time =>
    obtain ⟨rfl, decision, reason, haction, rfl⟩ := he
    obtain ⟨-, as, has, rfl⟩ := review_eq_ok_iff.1 h
    obtain ⟨a, a', ha, ha', rfl⟩ := Approvals.apply_eq_ok_iff.1 has
    rw [haction] at ha'
    obtain ⟨hundecided, hverdict⟩ := Approval.verdict_decide ha'
    refine ⟨?_, fun u hu => ?_⟩
    · simp [verdict?, hverdict]
    · rw [verdict?, ha, Option.map_some, Option.some.injEq] at hu
      subst hu
      exact hundecided

/-- An institution that has decided keeps its verdict unless it is released. -/
theorem verdict?_of_not_releases (h : c.apply e = .ok c') (he : ¬ e.Releases i)
    (hv : c.verdict? i = some v) (ht : v.status.isTerminal = true) : c'.verdict? i = some v := by
  obtain ⟨a, ha, rfl⟩ := Option.map_eq_some_iff.1 hv
  cases e with
  | notApplicable =>
    cases h
    exact hv
  | pointsCalculated points =>
    cases h
    have hi : i ∈ points.institutionIds := Classical.not_not.1 he
    obtain ⟨p, -, rfl, hget⟩ := Approvals.exists_following c.approvals hi
    have hverdict : (c.approvals.following p).verdict = a.verdict := by
      rw [Approvals.following, ha]
      rfl
    rw [verdict?, recalculate, hget, Option.map_some, hverdict]
  | approval r time =>
    obtain ⟨-, as, has, rfl⟩ := review_eq_ok_iff.1 h
    obtain ⟨b, b', hb, hb', rfl⟩ := Approvals.apply_eq_ok_iff.1 has
    by_cases hi : i = r.institution
    · subst hi
      rw [ha] at hb
      cases hb
      have hverdict := Approval.verdict_apply hb' ht fun hr => he ⟨rfl, hr⟩
      simp [verdict?, hverdict]
    · have hget : (c.approvals.insert r.institution b').get? i = c.approvals.get? i :=
        SortedMap.get?_insert_of_ne hi
      simp [verdict?, hget, ha]

/-! ### Losing points -/

/-- The institutions with an approval are those with points. -/
def Matched (c : Candidate) : Prop :=
  ∀ i, (c.approvals.get? i).isSome ↔ i ∈ c.points.institutionIds

theorem matched_create (publication : PublicationId) (points : PointCalculation) :
    (create publication points).Matched := fun _ => Approvals.get?_reconcile_isSome_iff

theorem matched_apply (h : c.apply e = .ok c') (hc : c.Matched) : c'.Matched := by
  cases e with
  | notApplicable =>
    cases h
    exact hc
  | pointsCalculated points =>
    cases h
    exact fun _ => Approvals.get?_reconcile_isSome_iff
  | approval r time =>
    intro i
    obtain ⟨-, as, has, rfl⟩ := review_eq_ok_iff.1 h
    obtain ⟨a, a', ha, -, rfl⟩ := Approvals.apply_eq_ok_iff.1 has
    have hi := hc i
    by_cases hir : i = r.institution
    · subst hir
      simpa [ha] using hi
    · have hget : (c.approvals.insert r.institution a').get? i = c.approvals.get? i :=
        SortedMap.get?_insert_of_ne hir
      rw [hget]
      exact hi

/-- An institution that had no points and has some now has a fresh approval. -/
theorem get?_of_regained (h : c.apply e = .ok c') (hc : c.Matched)
    (hi : i ∉ c.points.institutionIds) (hi' : i ∈ c'.points.institutionIds) :
    ∃ p ∈ c'.points.institutions, p.institution = i ∧
      c'.approvals.get? i = some (.fresh i p.involvedOrganizations) := by
  have hnone : c.approvals.get? i = none := by
    simpa using mt (hc i).1 hi
  cases e with
  | notApplicable =>
    cases h
    exact absurd hi' hi
  | approval r time =>
    obtain ⟨-, as, -, rfl⟩ := review_eq_ok_iff.1 h
    exact absurd hi' hi
  | pointsCalculated points =>
    cases h
    obtain ⟨p, hp, rfl, hget⟩ := Approvals.exists_following c.approvals hi'
    refine ⟨p, hp, rfl, hget.trans ?_⟩
    rw [Approvals.following, hnone]

end Candidate

end PublicationIndicator
