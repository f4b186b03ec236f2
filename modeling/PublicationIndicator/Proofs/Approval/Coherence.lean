import PublicationIndicator.Approval.Consensus

/-!
# PublicationIndicator.Proofs.Approval.Coherence — what an approval's fields say of each other

`Approval.Coherent` holds of a fresh approval and is kept by every transition: nobody works on a new
approval, and only a decided one has a decider, a date and, if it was rejected, a reason.  Transitions
leave the institution and its involved organizations alone.  A coherent approval is normalized.
-/

namespace PublicationIndicator

theorem ApprovalStatus.isTerminal_iff {s : ApprovalStatus} :
    s.isTerminal = true ↔ s = .approved ∨ s = .rejected := by
  cases s <;> simp [isTerminal]

namespace Approval

/-- The fields of an approval fit its status. -/
structure Coherent (a : Approval) : Prop where
  assignee : a.status = .new → a.assignee = none
  finalizedBy : a.finalizedBy.isSome ↔ a.status = .approved ∨ a.status = .rejected
  finalizedDate : a.finalizedDate.isSome ↔ a.status = .approved ∨ a.status = .rejected
  reason : a.reason.isSome → a.status = .rejected

variable {a a' : Approval}

/-- An approval that is not decided has no trace of a decision. -/
theorem Coherent.undecided (h : a.Coherent) (ht : ¬ a.status.isTerminal = true) :
    a.finalizedBy = none ∧ a.finalizedDate = none ∧ a.reason = none := by
  rw [ApprovalStatus.isTerminal_iff] at ht
  refine ⟨?_, ?_, ?_⟩
  · simpa using mt h.finalizedBy.1 ht
  · simpa using mt h.finalizedDate.1 ht
  · have hr : ¬ a.reason.isSome := fun hr => ht (.inr (h.reason hr))
    simpa using hr

/-- What fits its status is normalized already. -/
theorem Coherent.normalized_eq (h : a.Coherent) : a.normalized = a := by
  rw [normalized, if_neg]
  rintro ⟨hs, ha⟩
  rw [h.assignee hs] at ha
  cases ha

/-- What else an approval says does not depend on the organizations that are involved. -/
theorem Coherent.involving (h : a.Coherent) (involved : SortedSet OrganizationId) :
    Coherent { a with involvedOrganizations := involved } :=
  ⟨h.assignee, h.finalizedBy, h.finalizedDate, h.reason⟩

/-! ### Transitions -/

theorem coherent_fresh (id : OrganizationId) (involved : SortedSet OrganizationId) :
    (fresh id involved).Coherent where
  assignee _ := rfl
  finalizedBy := by simp [fresh]
  finalizedDate := by simp [fresh]
  reason h := by cases h

theorem coherent_assign {reviewer : Username} (ha : a.Coherent)
    (h : a.assign reviewer = .ok a') : a'.Coherent := by
  unfold assign at h
  split at h
  · cases h
  · rename_i ht
    obtain ⟨hb, hd, hr⟩ := ha.undecided ht
    cases h
    exact ⟨by simp, by simp [hb], by simp [hd], by simp [hr]⟩

theorem coherent_unassign (ha : a.Coherent) : a.unassign.Coherent := by
  unfold unassign
  by_cases ht : a.status.isTerminal = true
  · rw [if_pos ht]
    exact ⟨fun _ => rfl, ha.finalizedBy, ha.finalizedDate, ha.reason⟩
  · obtain ⟨hb, hd, hr⟩ := ha.undecided ht
    rw [if_neg ht]
    exact ⟨by simp, by simp [hb], by simp [hd], by simp [hr]⟩

theorem coherent_decide {decision : ApprovalDecision} {reviewer : Username} {reason : Option String}
    {time : Instant} (h : a.decide decision reviewer reason time = .ok a') : a'.Coherent := by
  unfold decide at h
  split at h
  · cases h
  · cases h
    cases decision <;> constructor <;> simp [ApprovalDecision.status]

theorem coherent_reopen (h : a.reopen = .ok a') : a'.Coherent := by
  unfold reopen at h
  split at h
  · cases h
    exact ⟨by simp, by simp, by simp, by simp⟩
  · cases h

/-- Whatever an actor asks for, a coherent approval stays coherent. -/
theorem coherent_apply {action : ApprovalAction} {actor : Username} {time : Instant}
    (ha : a.Coherent) (h : a.apply action actor time = .ok a') : a'.Coherent := by
  cases action with
  | assign assignee => exact coherent_assign ha h
  | unassign =>
    cases h
    exact coherent_unassign ha
  | decide decision reason => exact coherent_decide h
  | reopen => exact coherent_reopen h

/-- A transition changes neither the institution nor the organizations that are involved. -/
theorem frame_apply {action : ApprovalAction} {actor : Username} {time : Instant}
    (h : a.apply action actor time = .ok a') :
    a'.institution = a.institution ∧ a'.involvedOrganizations = a.involvedOrganizations := by
  cases action with
  | assign assignee =>
    rw [apply, assign] at h
    split at h <;> cases h
    exact ⟨rfl, rfl⟩
  | unassign =>
    cases h
    exact ⟨rfl, rfl⟩
  | decide decision reason =>
    rw [apply, decide] at h
    split at h <;> cases h
    exact ⟨rfl, rfl⟩
  | reopen =>
    rw [apply, reopen] at h
    split at h <;> cases h
    exact ⟨rfl, rfl⟩

end Approval

namespace Approvals

/-- A request that is carried out replaces the approval of its institution, and no other. -/
theorem apply_eq_ok_iff {as as' : Approvals} {r : ApprovalRequest} {time : Instant} :
    as.apply r time = .ok as' ↔ ∃ a a', as.get? r.institution = some a ∧
      a.apply r.action r.actor time = .ok a' ∧ as' = as.insert r.institution a' := by
  unfold apply
  cases hg : as.get? r.institution with
  | none => simp
  | some a =>
    cases ha : a.apply r.action r.actor time with
    | error e => simp [ha]
    | ok a' => simp [ha, eq_comm]

end Approvals

end PublicationIndicator
