import Mathlib.Data.List.Basic
import PublicationIndicator.Approval.Consensus

/-!
# PublicationIndicator.Proofs.Approval.Consensus — what approvals come to together

Counting statuses finds a dispute where both decisions are among them, a common decision where all are
the same, and nothing yet otherwise (`consensus_eq_dispute_iff` and its companions).  So the order does
not matter, nor how often a status stands there (`consensus_congr`), and as long as one institution has
not decided, nothing but a dispute can come of the others (`consensus_cons_of_not_isTerminal`).
-/

namespace PublicationIndicator

/-! ### Counting -/

namespace Tally

variable {t : Tally}

theorem outcome_eq_dispute_iff (hle : t.approved ≤ t.count) :
    t.outcome = .dispute ↔ 0 < t.approved ∧ 0 < t.rejected := by
  unfold outcome
  split_ifs with h0 hboth ha hr
  · simp
    omega
  · simp [hboth]
  all_goals simpa using hboth

theorem outcome_eq_approved_iff (hle : t.approved + t.rejected ≤ t.count) :
    t.outcome = .approved ↔ t.count ≠ 0 ∧ t.approved = t.count := by
  unfold outcome
  split_ifs with h0 hboth ha hr
  · simp [h0]
  · simp
    omega
  all_goals simp [h0, ha]

theorem outcome_eq_rejected_iff (hle : t.approved + t.rejected ≤ t.count) :
    t.outcome = .rejected ↔ t.count ≠ 0 ∧ t.rejected = t.count := by
  unfold outcome
  split_ifs with h0 hboth ha hr
  · simp [h0]
  · simp
    omega
  · simp
    omega
  all_goals simp [h0, hr]

end Tally

namespace Approvals

variable {statuses : List ApprovalStatus} {s : ApprovalStatus}

/-- Statuses are counted on top of what was counted before. -/
theorem foldl_add (statuses : List ApprovalStatus) (t : Tally) :
    statuses.foldl Tally.add t =
      ⟨t.count + statuses.length, t.approved + statuses.count .approved,
        t.rejected + statuses.count .rejected⟩ := by
  induction statuses generalizing t with
  | nil => rfl
  | cons s statuses ih =>
    rw [List.foldl_cons, ih, List.length_cons, List.count_cons, List.count_cons]
    cases s <;> simp [Tally.add] <;> omega

theorem consensus_eq (statuses : List ApprovalStatus) : consensus statuses =
    Tally.outcome ⟨statuses.length, statuses.count .approved, statuses.count .rejected⟩ := by
  rw [consensus, foldl_add]
  simp [Tally.empty]

/-! ### Each outcome -/

/-- An approval is no rejection, so that both together are not more than all. -/
theorem count_add_count_le (statuses : List ApprovalStatus) :
    statuses.count .approved + statuses.count .rejected ≤ statuses.length := by
  induction statuses with
  | nil => exact Nat.le_refl 0
  | cons s statuses ih =>
    rw [List.length_cons, List.count_cons, List.count_cons]
    cases s <;> simp <;> omega

theorem consensus_eq_dispute_iff :
    consensus statuses = .dispute ↔ .approved ∈ statuses ∧ .rejected ∈ statuses := by
  rw [consensus_eq, Tally.outcome_eq_dispute_iff List.count_le_length, List.count_pos_iff,
    List.count_pos_iff]

theorem consensus_eq_approved_iff :
    consensus statuses = .approved ↔ statuses ≠ [] ∧ ∀ s ∈ statuses, s = .approved := by
  rw [consensus_eq, Tally.outcome_eq_approved_iff (count_add_count_le statuses), Ne, List.length_eq_zero_iff,
    List.count_eq_length]
  simp only [eq_comm]

theorem consensus_eq_rejected_iff :
    consensus statuses = .rejected ↔ statuses ≠ [] ∧ ∀ s ∈ statuses, s = .rejected := by
  rw [consensus_eq, Tally.outcome_eq_rejected_iff (count_add_count_le statuses), Ne, List.length_eq_zero_iff,
    List.count_eq_length]
  simp only [eq_comm]

/-- Nothing comes of the statuses yet if they are neither a dispute nor a common decision. -/
theorem consensus_eq_pending_iff : consensus statuses = .pending ↔
    ¬ (.approved ∈ statuses ∧ .rejected ∈ statuses) ∧
      ¬ (statuses ≠ [] ∧ ∀ s ∈ statuses, s = .approved) ∧
      ¬ (statuses ≠ [] ∧ ∀ s ∈ statuses, s = .rejected) := by
  rw [← consensus_eq_dispute_iff, ← consensus_eq_approved_iff, ← consensus_eq_rejected_iff]
  cases consensus statuses <;> simp

/-! ### What the outcome depends on -/

/-- Neither the order of statuses nor how often each of them stands there matters. -/
theorem consensus_congr {statuses' : List ApprovalStatus} (h : ∀ s, s ∈ statuses ↔ s ∈ statuses') :
    consensus statuses = consensus statuses' := by
  have hnil : statuses = [] ↔ statuses' = [] := by
    rw [List.eq_nil_iff_forall_not_mem, List.eq_nil_iff_forall_not_mem]
    simp only [h]
  cases hc : consensus statuses' with
  | dispute => rwa [consensus_eq_dispute_iff, h, h, ← consensus_eq_dispute_iff]
  | approved =>
    rw [consensus_eq_approved_iff] at hc ⊢
    simpa only [Ne, hnil, h] using hc
  | rejected =>
    rw [consensus_eq_rejected_iff] at hc ⊢
    simpa only [Ne, hnil, h] using hc
  | pending =>
    rw [consensus_eq_pending_iff] at hc ⊢
    simpa only [Ne, hnil, h] using hc

/-- As long as somebody has not decided, there is nothing yet, or a dispute among the others. -/
theorem consensus_cons_of_not_isTerminal (hs : ¬ s.isTerminal = true) :
    consensus (s :: statuses) =
      if .approved ∈ statuses ∧ .rejected ∈ statuses then .dispute else .pending := by
  have ha : ApprovalStatus.approved ≠ s := by
    rintro rfl
    exact hs rfl
  have hr : ApprovalStatus.rejected ≠ s := by
    rintro rfl
    exact hs rfl
  split
  · rename_i hboth
    exact consensus_eq_dispute_iff.2 ⟨.tail _ hboth.1, .tail _ hboth.2⟩
  · rename_i hboth
    rw [consensus_eq_pending_iff, List.mem_cons, List.mem_cons]
    refine ⟨?_, ?_, ?_⟩
    · rintro ⟨h | h, h' | h'⟩
      · exact ha h
      · exact ha h
      · exact hr h'
      · exact hboth ⟨h, h'⟩
    · rintro ⟨-, hall⟩
      exact ha (hall s List.mem_cons_self).symm
    · rintro ⟨-, hall⟩
      exact hr (hall s List.mem_cons_self).symm

/-! ### Replacing one approval -/

variable {as : Approvals} {i : OrganizationId} {a a' : Approval}

/-- The statuses of all institutions but one. -/
def statusesBut (as : Approvals) (i : OrganizationId) : List ApprovalStatus :=
  (as.entries.filter fun e => e.1 ≠ i).map fun e => e.2.status

theorem mem_statuses_iff :
    s ∈ as.values.map Approval.status ↔ ∃ j a, as.get? j = some a ∧ a.status = s := by
  rw [SortedMap.values, List.map_map, List.mem_map]
  constructor
  · rintro ⟨⟨j, a⟩, hmem, rfl⟩
    exact ⟨j, a, SortedMap.mem_entries_iff.1 hmem, rfl⟩
  · rintro ⟨j, a, hj, rfl⟩
    exact ⟨(j, a), SortedMap.mem_entries_iff.2 hj, rfl⟩

theorem mem_statusesBut_iff :
    s ∈ as.statusesBut i ↔ ∃ j a, j ≠ i ∧ as.get? j = some a ∧ a.status = s := by
  rw [statusesBut, List.mem_map]
  constructor
  · rintro ⟨⟨j, a⟩, hmem, rfl⟩
    obtain ⟨hmem, hj⟩ := List.mem_filter.1 hmem
    exact ⟨j, a, by simpa using hj, SortedMap.mem_entries_iff.1 hmem, rfl⟩
  · rintro ⟨j, a, hj, hget, rfl⟩
    exact ⟨(j, a), List.mem_filter.2 ⟨SortedMap.mem_entries_iff.2 hget, by simpa using hj⟩, rfl⟩

/-- An institution's status counts together with those of the others. -/
theorem globalStatus_of_get? (h : as.get? i = some a) :
    as.globalStatus = consensus (a.status :: as.statusesBut i) := by
  refine consensus_congr fun s => ?_
  rw [mem_statuses_iff, List.mem_cons, mem_statusesBut_iff]
  constructor
  · rintro ⟨j, b, hj, rfl⟩
    by_cases hji : j = i
    · subst hji
      rw [h] at hj
      cases hj
      exact .inl rfl
    · exact .inr ⟨j, b, hji, hj, rfl⟩
  · rintro (rfl | ⟨j, b, -, hj, rfl⟩)
    · exact ⟨i, a, h, rfl⟩
    · exact ⟨j, b, hj, rfl⟩

/-- A new approval of one institution leaves the statuses of the others. -/
theorem globalStatus_insert (as : Approvals) (i : OrganizationId) (a : Approval) :
    globalStatus (as.insert i a) = consensus (a.status :: as.statusesBut i) := by
  rw [globalStatus_of_get? (SortedMap.get?_insert_self as i a)]
  refine consensus_congr fun s => ?_
  rw [List.mem_cons, List.mem_cons, mem_statusesBut_iff, mem_statusesBut_iff]
  refine or_congr_right (exists_congr fun j => exists_congr fun b => and_congr_right fun hj => ?_)
  rw [SortedMap.get?_insert_of_ne hj]

end Approvals

end PublicationIndicator
