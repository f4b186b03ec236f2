import Mathlib.Data.List.Perm.Subperm
import PublicationIndicator.Proofs.Approval.Consensus
import PublicationIndicator.Proofs.Candidate.Decision

/-!
# PublicationIndicator.Proofs.Candidate.GlobalStatus — how the status of a candidate moves

A request changes the status of one institution among the others.  `ApprovalAction.Moves` says what each
action may do to the status of the candidate, and every request that is carried out obeys it
(`moves_of_review`): institutions that have agreed stay so until one of them is reopened, and a dispute
ends by reopening only, unless points are calculated anew (`globalStatus_moves`).
-/

namespace PublicationIndicator

open Approvals

/-! ### One approval -/

namespace Approval

variable {a a' : Approval} {actor : Username} {time : Instant}

theorem not_isTerminal_of_assign {assignee : Username}
    (h : a.apply (.assign assignee) actor time = .ok a') :
    ¬ a.status.isTerminal = true ∧ ¬ a'.status.isTerminal = true := by
  rw [apply, assign] at h
  by_cases ht : a.status.isTerminal = true
  · rw [if_pos ht] at h
    cases h
  · rw [if_neg ht] at h
    cases h
    exact ⟨ht, Bool.false_ne_true⟩

/-- Without an assignee an approval is as decided as before. -/
theorem status_unassign (a : Approval) :
    a.unassign.status = a.status ∨ ¬ a.status.isTerminal = true ∧ ¬ a.unassign.status.isTerminal = true := by
  by_cases ht : a.status.isTerminal = true
  · exact .inl (if_pos ht)
  · refine .inr ⟨ht, ?_⟩
    rw [unassign, if_neg ht]
    exact Bool.false_ne_true

theorem not_isTerminal_of_reopen (h : a.apply .reopen actor time = .ok a') :
    ¬ a'.status.isTerminal = true := by
  rw [apply, reopen] at h
  by_cases ht : a.status.isTerminal = true
  · rw [if_pos ht] at h
    cases h
    exact Bool.false_ne_true
  · rw [if_neg ht] at h
    cases h

end Approval

/-! ### One request -/

/-- What an action on the approval of one institution may do to the status of all: whoever takes an
approval or lets go of it changes nothing, decisions are taken as long as something is open and settle no
dispute, and what is reopened is open again and makes no dispute. -/
def ApprovalAction.Moves (action : ApprovalAction) (before after : GlobalStatus) : Prop :=
  match action with
  | .assign _ | .unassign => after = before
  | .decide _ _ =>
    (before = .pending ∨ before = .dispute) ∧ (before = .dispute → after = .dispute)
  | .reopen => (after = .pending ∨ after = .dispute) ∧ (after = .dispute → before = .dispute)

section

variable {statuses : List ApprovalStatus} {s s' : ApprovalStatus}

/-- Where one has not decided, it does not matter what else its status is. -/
theorem consensus_cons_eq (hs : ¬ s.isTerminal = true) (hs' : ¬ s'.isTerminal = true) :
    consensus (s' :: statuses) = consensus (s :: statuses) := by
  rw [consensus_cons_of_not_isTerminal hs, consensus_cons_of_not_isTerminal hs']

/-- Where one has not decided, the status is open, and whatever becomes of that one, a dispute stays. -/
theorem consensus_cons_open (hs : ¬ s.isTerminal = true) (s' : ApprovalStatus) :
    (consensus (s :: statuses) = .pending ∨ consensus (s :: statuses) = .dispute) ∧
      (consensus (s :: statuses) = .dispute → consensus (s' :: statuses) = .dispute) := by
  rw [consensus_cons_of_not_isTerminal hs]
  split
  · rename_i hboth
    refine ⟨.inr rfl, fun _ => ?_⟩
    exact consensus_eq_dispute_iff.2 ⟨.tail _ hboth.1, .tail _ hboth.2⟩
  · exact ⟨.inl rfl, fun h => by cases h⟩

end

/-- An institution's approval changes as its action says, and with it the status among the others. -/
theorem moves_of_approval {a a' : Approval} {action : ApprovalAction} {actor : Username}
    {time : Instant} (h : a.apply action actor time = .ok a') (others : List ApprovalStatus) :
    action.Moves (consensus (a.status :: others)) (consensus (a'.status :: others)) := by
  cases action with
  | assign assignee =>
    obtain ⟨ha, ha'⟩ := Approval.not_isTerminal_of_assign h
    exact consensus_cons_eq ha ha'
  | unassign =>
    cases h
    rcases a.status_unassign with heq | ⟨ha, ha'⟩
    · exact congrArg (fun s => consensus (s :: others)) heq
    · exact consensus_cons_eq ha ha'
  | decide decision reason => exact consensus_cons_open (Approval.verdict_decide h).1 a'.status
  | reopen => exact consensus_cons_open (Approval.not_isTerminal_of_reopen h) a.status

namespace Candidate

variable {c c' : Candidate} {e : CandidateEvent}

theorem moves_of_review {r : ApprovalRequest} {time : Instant}
    (h : c.apply (.approval r time) = .ok c') : r.action.Moves c.globalStatus c'.globalStatus := by
  obtain ⟨-, as, has, rfl⟩ := review_eq_ok_iff.1 h
  obtain ⟨a, a', ha, ha', rfl⟩ := Approvals.apply_eq_ok_iff.1 has
  rw [globalStatus, globalStatus, globalStatus_of_get? ha, globalStatus_insert]
  exact moves_of_approval ha' _

/-- Institutions that agree on a decision do so until one of them is reopened, or points are calculated
anew. -/
theorem reopens_of_globalStatus_ne (h : c.apply e = .ok c')
    (hs : c.globalStatus = .approved ∨ c.globalStatus = .rejected)
    (hne : c'.globalStatus ≠ c.globalStatus) :
    (∃ points, e = .pointsCalculated points) ∨ ∃ r time, e = .approval r time ∧ r.action = .reopen := by
  cases e with
  | pointsCalculated points => exact .inl ⟨points, rfl⟩
  | notApplicable =>
    cases h
    exact absurd rfl hne
  | approval r time =>
    refine .inr ⟨r, time, rfl, ?_⟩
    have hmoves := moves_of_review h
    cases haction : r.action with
    | reopen => rfl
    | assign assignee =>
      rw [haction] at hmoves
      exact absurd hmoves hne
    | unassign =>
      rw [haction] at hmoves
      exact absurd hmoves hne
    | decide decision reason =>
      rw [haction] at hmoves
      obtain ⟨hopen, -⟩ := hmoves
      rcases hs with hs | hs <;> rw [hs] at hopen <;> rcases hopen with hopen | hopen <;> cases hopen

/-! ### One institution -/

/-- It takes two to disagree. -/
theorem globalStatus_ne_dispute (h : c.approvals.size ≤ 1) : c.globalStatus ≠ .dispute := by
  intro hd
  obtain ⟨ha, hr⟩ := consensus_eq_dispute_iff.1 hd
  obtain ⟨i, a, hi, ha⟩ := mem_statuses_iff.1 ha
  obtain ⟨j, b, hj, hb⟩ := mem_statuses_iff.1 hr
  have hmem := SortedMap.mem_entries_iff.2 hi
  have hmem' := SortedMap.mem_entries_iff.2 hj
  obtain ⟨e, he⟩ : ∃ e, c.approvals.entries = [e] :=
    List.length_eq_one_iff.1 (Nat.le_antisymm h (List.length_pos_of_mem hmem))
  rw [he, List.mem_singleton] at hmem hmem'
  obtain ⟨-, rfl⟩ := Prod.mk.inj (hmem.trans hmem'.symm)
  rw [ha] at hb
  cases hb

theorem matched_step (s : CandidateStep) (hc : c.Matched) : (c.step s).Matched := by
  cases s with
  | normalize =>
    intro i
    rw [step, normalized, Approvals.normalized, SortedMap.get?_mapValues, Option.isSome_map]
    exact hc i
  | event e =>
    rw [step]
    cases he : c.apply e with
    | error err => exact hc
    | ok c' => exact matched_apply he hc

theorem matched_run (steps : List CandidateStep) (hc : c.Matched) : (c.run steps).Matched := by
  induction steps generalizing c with
  | nil => exact hc
  | cons s rest ih => exact ih (matched_step s hc)

/-- There are no more approvals than institutions with points. -/
theorem Matched.size_le (hc : c.Matched) : c.approvals.size ≤ c.points.institutions.length := by
  have hn : c.approvals.keys.Nodup :=
    SortedSet.nodup_toList ⟨c.approvals.keys, c.approvals.ascending_keys⟩
  have hsub : c.approvals.keys ⊆ c.points.institutionIds := by
    intro i hi
    rw [SortedMap.mem_keys_iff, ← Option.isSome_iff_exists] at hi
    exact (hc i).1 hi
  have hle := (List.subperm_of_subset hn hsub).length_le
  rwa [SortedMap.keys, PointCalculation.institutionIds, List.length_map, List.length_map] at hle

end Candidate

/-! ### All of it -/

/-- Whatever the order of the approvals, there is a dispute if some institution approves and another
rejects, a common decision if there are institutions and all have it, and nothing yet otherwise.  So each
request that is carried out moves the status of its candidate as its action may, a common decision ends
by reopening or with new points only, and a candidate never is in dispute that has one approval, or that
came about from its points and has one institution. -/
theorem Candidate.globalStatus_moves :
    (∀ as : List Approval,
      (consensus (as.map Approval.status) = .dispute ↔
        (∃ a ∈ as, a.status = .approved) ∧ ∃ a ∈ as, a.status = .rejected) ∧
      (consensus (as.map Approval.status) = .approved ↔ as ≠ [] ∧ ∀ a ∈ as, a.status = .approved) ∧
      (consensus (as.map Approval.status) = .rejected ↔ as ≠ [] ∧ ∀ a ∈ as, a.status = .rejected) ∧
      (consensus (as.map Approval.status) = .pending ↔
        ¬ ((∃ a ∈ as, a.status = .approved) ∧ ∃ a ∈ as, a.status = .rejected) ∧
        ¬ (as ≠ [] ∧ ∀ a ∈ as, a.status = .approved) ∧
        ¬ (as ≠ [] ∧ ∀ a ∈ as, a.status = .rejected)) ∧
      ∀ as' : List Approval, as'.Perm as →
        consensus (as'.map Approval.status) = consensus (as.map Approval.status)) ∧
    (∀ (c c' : Candidate) (r : ApprovalRequest) (time : Instant),
      c.apply (.approval r time) = .ok c' → r.action.Moves c.globalStatus c'.globalStatus) ∧
    (∀ (c c' : Candidate) (e : CandidateEvent), c.apply e = .ok c' →
      c.globalStatus = .approved ∨ c.globalStatus = .rejected → c'.globalStatus ≠ c.globalStatus →
      (∃ points, e = .pointsCalculated points) ∨
        ∃ r time, e = .approval r time ∧ r.action = .reopen) ∧
    (∀ c : Candidate, c.approvals.size ≤ 1 → c.globalStatus ≠ .dispute) ∧
    ∀ (publication : PublicationId) (points : PointCalculation) (steps : List CandidateStep),
      ((create publication points).run steps).points.institutions.length ≤ 1 →
      ((create publication points).run steps).globalStatus ≠ .dispute := by
  refine ⟨fun as => ?_, fun c c' r time => moves_of_review, fun c c' e => reopens_of_globalStatus_ne,
    fun c => globalStatus_ne_dispute, fun publication points steps hone => ?_⟩
  · have hmem : ∀ s, s ∈ as.map Approval.status ↔ ∃ a ∈ as, a.status = s := fun s => List.mem_map
    have hall : ∀ s, (∀ s' ∈ as.map Approval.status, s' = s) ↔ ∀ a ∈ as, a.status = s :=
      fun s => List.forall_mem_map
    have hnil : as.map Approval.status ≠ [] ↔ as ≠ [] := not_congr List.map_eq_nil_iff
    rw [consensus_eq_dispute_iff, consensus_eq_approved_iff, consensus_eq_rejected_iff,
      consensus_eq_pending_iff, hmem, hmem, hall, hall, hnil]
    refine ⟨Iff.rfl, Iff.rfl, Iff.rfl, Iff.rfl, fun as' hp => ?_⟩
    exact consensus_congr fun s => (hp.map Approval.status).mem_iff
  · have hmatched := matched_run steps (matched_create publication points)
    exact globalStatus_ne_dispute (Nat.le_trans hmatched.size_le hone)

end PublicationIndicator
