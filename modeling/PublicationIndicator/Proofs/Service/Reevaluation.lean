import PublicationIndicator.Proofs.Service.Alone
import PublicationIndicator.Proofs.Traversal
import PublicationIndicator.Service.Scripted

/-!
# PublicationIndicator.Proofs.Service.Reevaluation — evaluating the same facts again

An evaluation that succeeds leaves its candidate up to date with its points (`upToDate_evaluate`), and
no review puts it out of date, whether it is carried out, refused or fails on the way
(`upToDate_reviewed`).  So however many reviews there were in between, the same facts evaluated again
find nothing to write (`evaluate_again`).
-/

namespace PublicationIndicator.Service

open Session CandidateStore

/-- A candidate is kept under that name which the points do not change. -/
structure UpToDate (points : PointCalculation) (id : CandidateId) (store : CandidateStore) : Prop where
  filed : store.Filed
  current : outdated points (store.load id) = false

variable {points : PointCalculation} {publication : PublicationId} {id : CandidateId}
  {provider : OrganizationProvider} {attempts : Nat} {facts : PublicationFacts}
  {report : EvaluationReport} {before after : CandidateStore} {t : List Exchange}

theorem outdated_eq_false_iff {current : Option StoredCandidate} : outdated points current = false ↔
    ∃ r, current = some r ∧ (r.candidate == r.candidate.recalculate points) = true := by
  cases current with
  | none => simp [outdated]
  | some r => simp [outdated, bne]

/-- A save keeps the candidate up to date if it stores another one or one that is up to date. -/
theorem upToDate_save {c : Candidate} {expected : Option Nat} {version : Nat} (hs : before.Filed)
    (hkept : id ≠ c.id → outdated points (before.load id) = false)
    (hc : id = c.id → (c == c.recalculate points) = true)
    (hsave : before.save c expected = .ok (version, after)) : UpToDate points id after := by
  refine ⟨hs.save hsave, ?_⟩
  by_cases hid : id = c.id
  · have hload : after.load id = some ⟨c.normalized, version⟩ := by
      rw [hid]
      exact load_of_save hsave
    exact outdated_eq_false_iff.2 ⟨_, hload, Candidate.beq_recalculate_normalized (hc hid)⟩
  · rw [load_of_save_of_ne hsave hid]
    exact hkept hid

/-! ### The first evaluation -/

/-- An evaluation that succeeds has found points, and its write has succeeded. -/
theorem exists_of_path_evaluate (h : (evaluate provider attempts facts).Path t (.ok report)) :
    ∃ e, scoreThrough provider facts = .ok e ∧ report.excluded = e.excluded ∧
      (write attempts facts.candidate (proposePoints facts.publication e.calculation)).Path t
        (.ok (some (report.stored, report.changed))) := by
  unfold evaluate at h
  split at h
  · obtain ⟨result, t₁, t₂, -, -, hrest⟩ := exists_path_of_bind h
    cases result with
    | ok _ => cases hrest.2
    | error e => cases hrest.2
  · cases h.2
  · rename_i e he
    obtain ⟨result, t₁, t₂, rfl, hwrite, hrest⟩ := exists_path_of_bind h
    rcases result with err | _ | ⟨stored, changed⟩
    · cases hrest.2
    · cases hrest.2
    · obtain ⟨rfl, hreport⟩ := hrest
      cases hreport
      rw [List.append_nil]
      exact ⟨e, he, rfl, hwrite⟩

/-- What is proposed for points is up to date with them. -/
theorem beq_recalculate_of_proposed {current : Option Candidate} {c : Candidate}
    (h : proposePoints publication points current = some c) : (c == c.recalculate points) = true := by
  cases current with
  | none =>
    cases h
    rw [Candidate.recalculate_create]
    exact BEq.rfl
  | some b =>
    cases h
    rw [Candidate.recalculate_recalculate]
    exact BEq.rfl

theorem id_of_proposed {current : Option StoredCandidate} {c : Candidate}
    (hid : ∀ r, current = some r → r.candidate.id = publication.candidate)
    (h : proposePoints publication points (current.map StoredCandidate.candidate) = some c) :
    c.id = publication.candidate := by
  cases current with
  | none =>
    cases h
    rfl
  | some r =>
    cases h
    exact hid r rfl

/-- After an evaluation that succeeded, the candidate is up to date, whatever went wrong on the way. -/
theorem upToDate_evaluate (w : FaultyStore) (hs : w.store.Filed)
    (hreport : ((evaluate provider attempts facts).run FaultyStore.backend w).1 = .ok report) :
    ∃ e, scoreThrough provider facts = .ok e ∧ report.excluded = e.excluded ∧
      UpToDate e.calculation facts.candidate
        ((evaluate provider attempts facts).run FaultyStore.backend w).2.store := by
  have hpath := path_run FaultyStore.backend (evaluate provider attempts facts) w
  rw [hreport] at hpath
  obtain ⟨e, he, hexcluded, hwrite⟩ := exists_of_path_evaluate hpath
  refine ⟨e, he, hexcluded, ?_⟩
  rcases of_path_writeFrom hwrite (w.answers_run _) with
    ⟨hnothing, hstore, -⟩ | ⟨c, version, hc, hsave, -⟩
  · rw [hstore]
    refine ⟨hs, ?_⟩
    rw [nothingNew_proposePoints] at hnothing
    simpa using hnothing
  · have hid : c.id = facts.candidate := id_of_proposed (fun r hr => hs _ r hr) hc
    exact upToDate_save hs (fun hne => absurd hid.symm hne)
      (fun _ => beq_recalculate_of_proposed hc) hsave

/-! ### Reviews in between -/

/-- The store after a review, whatever it came to. -/
def reviewed (w : FaultyStore) (q : QueuedRequest) : FaultyStore :=
  ((updateApproval q.id q.request q.time).run FaultyStore.backend w).2

theorem upToDate_reviewed {w : FaultyStore} (h : UpToDate points id w.store) (q : QueuedRequest) :
    UpToDate points id (reviewed w q).store := by
  have hreview := path_updateApproval
    (path_run FaultyStore.backend (updateApproval q.id q.request q.time) w)
  rcases hreview.stored (w.answers_run _) with
    hstore | ⟨current, next, version, hload, happly, hsave⟩
  · rw [reviewed, hstore]
    exact h
  · have hnext : next.id = q.id := (Candidate.apply_id happly).1.trans (h.filed _ _ hload)
    refine upToDate_save h.filed (fun _ => h.current) (fun hid => ?_) hsave
    -- the review is of this very candidate
    rw [hid, hnext] at h
    obtain ⟨r, hr, hcurrent⟩ := outdated_eq_false_iff.1 h.current
    rw [hload] at hr
    cases hr
    exact Candidate.beq_recalculate_apply hcurrent happly

theorem upToDate_foldl_reviewed {w : FaultyStore} (h : UpToDate points id w.store)
    (reviews : List QueuedRequest) : UpToDate points id (reviews.foldl reviewed w).store := by
  induction reviews generalizing w with
  | nil => exact h
  | cons q rest ih => exact ih (upToDate_reviewed h q)

/-! ### The second evaluation -/

/-- Where the candidate is up to date, an evaluation loads it and reports it as it is. -/
theorem run_evaluate_of_upToDate {store : CandidateStore} {e : PointEvaluation}
    (he : scoreThrough provider facts = .ok e)
    (h : UpToDate e.calculation facts.candidate store) (attempts : Nat) :
    ∃ current, store.load facts.candidate = some current ∧
      (evaluate provider attempts facts).run backend store =
        (.ok ⟨current, e.excluded, false⟩, store) ∧
      (evaluate provider attempts facts).exchanges backend store =
        [.load facts.candidate (.ok (some current))] := by
  obtain ⟨current, hcurrent, -⟩ := outdated_eq_false_iff.1 h.current
  have hnothing : nothingNew (proposePoints facts.publication e.calculation)
      (store.load facts.candidate) = true := by
    rw [nothingNew_proposePoints, h.current]
    rfl
  obtain ⟨hrun, hexchanges⟩ := run_write_of_nothingNew attempts store hnothing
  rw [hcurrent] at hrun hexchanges
  refine ⟨current, hcurrent, ?_, ?_⟩
  · rw [evaluate, he]
    simp only [run_bind, hrun]
    rfl
  · rw [evaluate, he]
    simp only [exchanges_bind, hrun, hexchanges]
    rfl

/-- An evaluation succeeds on a store that keeps each candidate under its own name, as every save does.
Then any reviews follow, of this candidate and of others, and any calls on the store may fail.  If the
facts are evaluated again after that, the report is of what is kept by then; nothing is written and
nothing is announced. -/
theorem evaluate_again (w : FaultyStore) (reviews : List QueuedRequest) (hs : w.store.Filed)
    (hreport : ((evaluate provider attempts facts).run FaultyStore.backend w).1 = .ok report) :
    let evaluated := ((evaluate provider attempts facts).run FaultyStore.backend w).2
    let store := (reviews.foldl reviewed evaluated).store
    ∃ current, store.load facts.candidate = some current ∧
      (evaluate provider attempts facts).run backend store =
        (.ok ⟨current, report.excluded, false⟩, store) ∧
      (evaluate provider attempts facts).exchanges backend store =
        [.load facts.candidate (.ok (some current))] := by
  intro evaluated store
  obtain ⟨e, he, hexcluded, hfirst⟩ := upToDate_evaluate w hs hreport
  rw [hexcluded]
  exact run_evaluate_of_upToDate he (upToDate_foldl_reviewed hfirst reviews) attempts

/-- The first evaluation meets a conflict; then the institution rejects, another one has no approval, and
a change of mind does not get through to the store. -/
theorem evaluate_again_rejected :
    let provider : OrganizationProvider := fun id => .ok [.blank id]
    let facts : PublicationFacts :=
      ⟨⟨"p"⟩, .academicArticle, ⟨"j", .journal, .levelOne⟩, [⟨.verified "x", [⟨"a"⟩]⟩], by decide⟩
    let w : FaultyStore := ⟨.empty, [],
      [some (.concurrentModification ⟨"p"⟩ none none), none, none, some (.unavailable "down")], []⟩
    let review (institution : String) (action : ApprovalAction) : QueuedRequest :=
      ⟨⟨"p"⟩, ⟨⟨institution⟩, action, ⟨"curator"⟩, none⟩, ⟨⟨2026, 1, 1, by decide, by decide⟩, 0, 0, 0⟩⟩
    let reviews := [review "a" (.decide .rejected (some "no share")), review "b" .unassign,
      review "a" .reopen]
    let evaluated := ((evaluate provider 2 facts).run FaultyStore.backend w).2
    let store := (reviews.foldl reviewed evaluated).store
    w.store.Filed ∧
      ∃ report, ((evaluate provider 2 facts).run FaultyStore.backend w).1 = .ok report ∧
      ∃ current, store.load ⟨"p"⟩ = some current ∧ current.version = 2 ∧
        current.candidate.approvals.values.map Approval.status = [.rejected] ∧
        (evaluate provider 2 facts).run backend store = (.ok ⟨current, report.excluded, false⟩, store) ∧
        (evaluate provider 2 facts).exchanges backend store = [.load ⟨"p"⟩ (.ok (some current))] := by
  intro provider facts w review reviews evaluated store
  have hs : w.store.Filed := by
    intro id r hr
    cases hr
  have hsome : ((evaluate provider 2 facts).run FaultyStore.backend w).1.toOption.isSome = true := by
    decide +kernel
  have hkept : (store.load ⟨"p"⟩).map (fun r =>
      (r.version, r.candidate.approvals.values.map Approval.status)) = some (2, [.rejected]) := by
    decide +kernel
  obtain ⟨report, hfirst⟩ := Option.isSome_iff_exists.1 hsome
  have hreport : ((evaluate provider 2 facts).run FaultyStore.backend w).1 = .ok report :=
    toOption_eq_some_iff.1 hfirst
  obtain ⟨current, hcurrent, hrun, hexchanges⟩ := evaluate_again w reviews hs hreport
  have hload : store.load ⟨"p"⟩ = some current := hcurrent
  rw [hload, Option.map_some, Option.some.injEq, Prod.mk.injEq] at hkept
  exact ⟨hs, report, hreport, current, hload, hkept.1, hkept.2, hrun, hexchanges⟩

end PublicationIndicator.Service
