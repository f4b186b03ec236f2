import PublicationIndicator.Proofs.Candidate.Applicability
import PublicationIndicator.Proofs.Service.Alone
import PublicationIndicator.Proofs.Traversal

/-!
# PublicationIndicator.Proofs.Service.Applicability — facts that earn no points, and points again

Facts that earn no points mark the stored candidate, once, and a marked candidate is not touched by
requests or by further facts without points (`load_inTurn_of_marked`).  What lies under the mark is the
last version that was applicable (`Succession.exists_applicable`), and an evaluation that finds the same
points brings it back (`run_evaluate_of_marked`).
-/

namespace PublicationIndicator

/-! ### One candidate at a time -/

namespace Session

open CandidateStore

/-- A careful session that makes nothing but versions of its candidate leaves all others as they are. -/
theorem Careful.run_of_ne {α : Type} {id : CandidateId} {makes : Option Candidate → Candidate → Prop}
    {seen : Option (Option StoredCandidate)} {session : Session α} {store : CandidateStore}
    (h : session.Careful id makes seen) (hs : store.Filed)
    (hseen : ∀ r, seen = some (some r) → r.candidate.id = id)
    (hmakes : ∀ b c, (∀ b', b = some b' → b'.id = id) → makes b c → c.id = id) :
    (session.run backend store).2.Filed ∧
      ∀ other, other ≠ id → (session.run backend store).2.load other = store.load other := by
  induction session generalizing seen store with
  | done a => exact ⟨hs, fun _ _ => rfl⟩
  | load id' next ih =>
    obtain ⟨rfl, hok, -⟩ := h
    simp only [run, backend]
    refine ih (.ok (store.load id')) (hok _) hs fun r hr => ?_
    rw [Option.some.injEq] at hr
    exact hs id' r hr
  | save c expected next ih =>
    obtain ⟨⟨current, rfl, hexpected, hc⟩, hnext⟩ := h
    have hid : c.id = id := by
      refine hmakes _ c (fun b hb => ?_) hc
      obtain ⟨r, rfl, rfl⟩ := Option.map_eq_some_iff.1 hb
      exact hseen r rfl
    cases hsave : store.save c expected with
    | error e =>
      simp only [run, backend, hsave]
      exact ih (.error e) (hnext _) hs fun r hr => by cases hr
    | ok result =>
      obtain ⟨version, after⟩ := result
      simp only [run, backend, hsave]
      obtain ⟨hfiled, hothers⟩ := ih (.ok version) (hnext _) (hs.save hsave) fun r hr => by cases hr
      refine ⟨hfiled, fun other hother => (hothers other hother).trans ?_⟩
      exact load_of_save_of_ne hsave (by rwa [hid])
  | publish u next ih =>
    simp only [run, backend]
    exact ih (.ok ()) (h _) hs hseen

end Session

namespace Service

open Session CandidateStore Exchange

theorem Call.id_of_makes {call : Call} {b : Option Candidate} {c : Candidate}
    (hb : ∀ b', b = some b' → b'.id = call.target) (h : call.Makes b c) : c.id = call.target := by
  cases b with
  | some b =>
    obtain ⟨e, -, happly⟩ := h
    exact (Candidate.apply_id happly).1.trans (hb b rfl)
  | none =>
    cases call with
    | updateApproval id request time => cases h
    | evaluate provider attempts facts =>
      change Call.creation? _ = some c at h
      rw [Call.creation?] at h
      split at h <;> cases h
      rfl

/-- A call touches no candidate but its own. -/
theorem run_session_of_ne (call : Call) {store : CandidateStore} (hs : store.Filed) :
    (call.session.run backend store).2.Filed ∧
      ∀ other, other ≠ call.target → (call.session.run backend store).2.load other = store.load other :=
  by
  have hcareful : call.session.Careful call.target call.Makes none := careful_session call
  exact hcareful.run_of_ne hs (fun r hr => by cases hr) fun _ _ => Call.id_of_makes

theorem run_session_evaluate (provider : OrganizationProvider) (attempts : Nat)
    (facts : PublicationFacts) (store : CandidateStore) :
    (Call.evaluate provider attempts facts).session.run backend store =
      Prod.map Answer.report (fun s => s) ((evaluate provider attempts facts).run backend store) :=
  run_bind ..

theorem run_session_updateApproval (id : CandidateId) (request : ApprovalRequest) (time : Instant)
    (store : CandidateStore) :
    (Call.updateApproval id request time).session.run backend store =
      Prod.map Answer.stored (fun s => s) ((updateApproval id request time).run backend store) :=
  run_bind ..

/-! ### The mark -/

variable {store : CandidateStore} {id : CandidateId} {marked : StoredCandidate}

/-- A write of something new is offered. -/
theorem exchanges_write_of_new {propose : Option Candidate → Option Candidate} (attempts : Nat)
    {c : Candidate} (hid : c.id = id)
    (hc : propose ((store.load id).map StoredCandidate.candidate) = some c)
    (hnew : isStored (store.load id) c = false) :
    let version := ((store.load id).map StoredCandidate.version).elim 1 (· + 1)
    ((write attempts id propose).exchanges backend store).filterMap offered? = [⟨c, version⟩] := by
  subst hid
  intro version
  obtain ⟨left, hwrite⟩ := exists_write_eq attempts c.id propose
  rw [hwrite, (writeFrom_of_new rfl hc hnew (store.backend_save_of_load c) (left + 1) left).2]
  rfl

/-- What a call that is refused offers: nothing, unless the refusal is that of the outlet. -/
theorem Wrote.filterMap_offered? {t : List Exchange} {e : ServiceError} (h : Wrote t (.error e))
    (he : ∀ p, e ≠ .publish p) : t.filterMap offered? = [] := by
  cases h with
  | refused ht _ => exact ht.filterMap_offered?
  | unannounced ht c expected version p => exact absurd rfl (he p)

variable {provider : OrganizationProvider} {facts : PublicationFacts} {reason : InvalidFacts}

theorem exchanges_evaluate_of_invalidFacts
    (he : scoreThrough provider facts = .error (.invalidFacts reason)) (attempts : Nat) :
    (evaluate provider attempts facts).exchanges backend store =
      (write attempts facts.candidate proposeNotApplicable).exchanges backend store := by
  rw [evaluate, he]
  simp only [exchanges_bind]
  cases ((write attempts facts.candidate proposeNotApplicable).run backend store).1 with
  | ok result => exact List.append_nil _
  | error e => exact List.append_nil _

/-- What facts without points do to a stored candidate. -/
structure Marks (store after : CandidateStore) (offered : List StoredCandidate)
    (current marked : StoredCandidate) : Prop where
  /-- Nothing about the candidate is changed but the mark. -/
  candidate : marked.candidate = { current.candidate with applicable := false }
  /-- A candidate without the mark gets a new version, which is offered, once. -/
  first : current.candidate.applicable = true →
    marked.version = current.version + 1 ∧ offered = [marked]
  /-- Where there is a mark already, nothing is written or offered. -/
  again : current.candidate.applicable = false → marked = current ∧ after = store ∧ offered = []

/-- Facts without points where no candidate is stored. -/
theorem evaluate_of_invalidFacts_of_none (hs : store.Filed)
    (he : scoreThrough provider facts = .error (.invalidFacts reason)) (attempts : Nat)
    (hnone : store.load facts.candidate = none) :
    ((evaluate provider attempts facts).run backend store).2 = store ∧
      ((evaluate provider attempts facts).exchanges backend store).filterMap offered? = [] := by
  have hnothing : nothingNew proposeNotApplicable (store.load facts.candidate) = true := by
    rw [hnone]
    rfl
  rw [run_evaluate_of_invalidFacts hs he, exchanges_evaluate_of_invalidFacts he,
    (run_write_of_nothingNew attempts store hnothing).2, hnone]
  exact ⟨rfl, rfl⟩

theorem exists_marks (hs : store.Filed)
    (he : scoreThrough provider facts = .error (.invalidFacts reason)) (attempts : Nat)
    {current : StoredCandidate} (hcurrent : store.load facts.candidate = some current) :
    let after := ((evaluate provider attempts facts).run backend store).2
    let t := (evaluate provider attempts facts).exchanges backend store
    ∃ marked, after.load facts.candidate = some marked ∧
      Marks store after (t.filterMap offered?) current marked := by
  intro after t
  have hafter := congrArg Prod.snd (run_evaluate_of_invalidFacts hs he attempts)
  have ht : t = (write attempts facts.candidate proposeNotApplicable).exchanges backend store :=
    exchanges_evaluate_of_invalidFacts he attempts
  rw [hcurrent] at hafter
  cases happlicable : current.candidate.applicable with
  | false =>
    simp only [happlicable, Bool.false_eq_true, if_false] at hafter
    have hnothing : nothingNew proposeNotApplicable (store.load facts.candidate) = true := by
      simp [nothingNew, proposeNotApplicable, hcurrent, happlicable]
    rw [(run_write_of_nothingNew attempts store hnothing).2] at ht
    refine ⟨current, by rw [← hcurrent, ← hafter], ?_, fun h => ?_, fun _ => ?_⟩
    · rw [← happlicable]
    · rw [happlicable] at h
      cases h
    · exact ⟨rfl, hafter, by rw [show t = _ from ht]; rfl⟩
  | true =>
    simp only [happlicable, if_true] at hafter
    have hid : current.candidate.markNotApplicable.id = facts.candidate := hs _ _ hcurrent
    have hpropose : proposeNotApplicable ((store.load facts.candidate).map StoredCandidate.candidate) =
        some current.candidate.markNotApplicable := by
      simp [proposeNotApplicable, hcurrent, happlicable]
    have hnew : isStored (store.load facts.candidate) current.candidate.markNotApplicable = false := by
      rw [hcurrent]
      exact Candidate.beq_markNotApplicable happlicable
    have hoffered := exchanges_write_of_new attempts hid hpropose hnew
    rw [← ht, hcurrent] at hoffered
    have hnormal : current.candidate.markNotApplicable.normalized =
        current.candidate.markNotApplicable :=
      congrArg Candidate.markNotApplicable (normalized_of_load hcurrent)
    refine ⟨⟨current.candidate.markNotApplicable, current.version + 1⟩, ?_, rfl, fun _ => ⟨rfl, hoffered⟩,
      fun h => ?_⟩
    · rw [show after = _ from hafter, CandidateStore.load, SortedMap.get?_insert_self,
        Option.map_some, hnormal]
    · rw [happlicable] at h
      cases h

/-! ### Marked candidates -/

/-- Does the call give its candidate points? -/
def Call.Scores (call : Call) : Prop := ∃ points, call.event? = some (.pointsCalculated points)

/-- Why a request on a marked candidate is refused. -/
def refusal (marked : StoredCandidate) (id : CandidateId) (r : ApprovalRequest) : ServiceError :=
  if isStale r marked.version then
    .store (.concurrentModification id r.expectedVersion (some marked.version))
  else .candidate (.notApplicable id)

theorem run_updateApproval_of_marked (hs : store.Filed) (hload : store.load id = some marked)
    (hmarked : marked.candidate.applicable = false) (r : ApprovalRequest) (time : Instant) :
    (updateApproval id r time).run backend store = (.error (refusal marked id r), store) ∧
      ((updateApproval id r time).exchanges backend store).filterMap offered? = [] := by
  have hrun : (updateApproval id r time).run backend store =
      (.error (refusal marked id r), store) := by
    rw [run_updateApproval hs, hload, refusal]
    simp only [Candidate.apply_approval_of_marked hmarked, hs id marked hload]
    split <;> rfl
  have hreviewed := path_updateApproval (path_run backend (updateApproval id r time) store)
  rw [hrun] at hreviewed
  refine ⟨hrun, hreviewed.wrote.filterMap_offered? fun p hp => ?_⟩
  rw [refusal] at hp
  split at hp <;> cases hp

/-- A call that gives a marked candidate no points leaves the store as it is. -/
theorem run_session_of_marked (hs : store.Filed) {call : Call}
    (hload : store.load call.target = some marked) (hmarked : marked.candidate.applicable = false)
    (hcall : ¬ call.Scores) : (call.session.run backend store).2 = store := by
  cases call with
  | updateApproval id request time =>
    have hload : store.load id = some marked := hload
    rw [run_session_updateApproval, (run_updateApproval_of_marked hs hload hmarked request time).1]
    rfl
  | evaluate provider attempts facts =>
    have hload : store.load facts.candidate = some marked := hload
    rw [run_session_evaluate]
    cases he : scoreThrough provider facts with
    | ok e => exact absurd ⟨e.calculation, by rw [Call.event?, he]⟩ hcall
    | error err =>
      cases err with
      | defect defect =>
        rw [run_evaluate_of_defect he]
        rfl
      | invalidFacts reason =>
        rw [run_evaluate_of_invalidFacts hs he, hload]
        change (if marked.candidate.applicable = true then _ else store) = store
        rw [hmarked]
        rfl

/-- As long as no call gives it points, a marked candidate stays as it is. -/
theorem load_inTurn_of_marked (hs : store.Filed) (hload : store.load id = some marked)
    (hmarked : marked.candidate.applicable = false) {calls : List Call}
    (hcalls : ∀ call ∈ calls, call.target = id → ¬ call.Scores) :
    ((inTurn calls).run backend store).2.Filed ∧
      ((inTurn calls).run backend store).2.load id = some marked := by
  induction calls generalizing store with
  | nil => exact ⟨hs, hload⟩
  | cons call rest ih =>
    obtain ⟨hfiled, hothers⟩ := run_session_of_ne call hs
    have hkept : (call.session.run backend store).2.load id = some marked := by
      by_cases hid : call.target = id
      · have hcall := hcalls call List.mem_cons_self hid
        subst hid
        rw [run_session_of_marked hs hload hmarked hcall]
        exact hload
      · rw [hothers id (Ne.symm hid)]
        exact hload
    rw [inTurn, run_bind, run_bind]
    exact ih hfiled hkept fun c hc => hcalls c (List.mem_cons_of_mem _ hc)

/-! ### Points again -/

/-- Points equal to those under the mark bring back what was marked. -/
theorem run_evaluate_of_marked {v : Candidate} {e : PointEvaluation} (hs : store.Filed)
    (hload : store.load facts.candidate = some marked)
    (hmarked : marked.candidate = v.markNotApplicable) (hv : v.applicable = true)
    (hreconciled : v.Reconciled) (he : scoreThrough provider facts = .ok e)
    (hpoints : (e.calculation == v.points) = true) (attempts : Nat) :
    let restored : StoredCandidate := ⟨{ v with points := e.calculation }, marked.version + 1⟩
    ∃ after, (evaluate provider attempts facts).run backend store =
        (.ok ⟨restored, e.excluded, true⟩, after) ∧
      after.load facts.candidate = some restored := by
  intro restored
  have hrecalculate : marked.candidate.recalculate e.calculation = restored.candidate := by
    rw [hmarked, Candidate.recalculate_of_beq (c := v.markNotApplicable) hreconciled hpoints]
    change Candidate.mk _ _ true _ _ = Candidate.mk _ _ v.applicable _ _
    rw [hv]
    rfl
  have hnew : (marked.candidate == marked.candidate.recalculate e.calculation) = false := by
    refine Bool.eq_false_iff.2 fun h => ?_
    have happlicable := (Candidate.beq_recalculate_iff.1 h).1
    rw [hmarked] at happlicable
    cases happlicable
  have hrevised : revised facts.publication e.calculation (some marked) = restored := by
    rw [revised, hnew, hrecalculate]
    rfl
  have houtdated : outdated e.calculation (some marked) = true := by
    rw [outdated, Option.all_some, bne, hnew]
    rfl
  obtain ⟨after, hrun, hafter⟩ := run_evaluate_of_ok hs he attempts
  rw [hload, hrevised, houtdated] at hrun
  rw [hload, hrevised] at hafter
  exact ⟨after, hrun, hafter⟩

/-! ### Under the mark -/

namespace Succession

variable {ι : Type} {ws : List (Write ι)} {w : Write ι} {n : Nat}

theorem reconciled (h : Succession ws) (hw : ws[n]? = some w) : w.stored.candidate.Reconciled := by
  refine h.holds (fun call c hc => ?_) (fun _ _ _ _ _ hc happly => Candidate.reconciled_apply hc happly) w
    (List.mem_of_getElem? hw)
  obtain ⟨_, facts, e, -, rfl⟩ := Call.exists_of_creation? hc
  exact Candidate.reconciled_create facts.publication e.calculation

/-- Of the first versions of a candidate the last one that is applicable tells all about the last one but
the mark. -/
theorem exists_applicable (h : Succession ws) (hw : ws[n]? = some w) :
    ∃ k v, ws[k]? = some v ∧ v.stored.candidate.applicable = true ∧
      (∀ m u, k < m → m ≤ n → ws[m]? = some u → u.stored.candidate.applicable = false) ∧
      w.stored.candidate = { v.stored.candidate with applicable := w.stored.candidate.applicable } := by
  induction n generalizing w with
  | zero =>
    obtain ⟨_, facts, e, -, hc⟩ := Call.exists_of_creation? (h.makes_first hw)
    exact ⟨0, w, hw, by rw [hc]; rfl, fun m u hm hm' => by omega, rfl⟩
  | succ n ih =>
    cases happlicable : w.stored.candidate.applicable with
    | true =>
      refine ⟨n + 1, w, hw, happlicable, fun m u hm hm' => by omega, ?_⟩
      rw [← happlicable]
    | false =>
      obtain ⟨u, e, hu, -, happly⟩ := h.exists_prior hw
      obtain ⟨k, v, hv, happlicable', hlater, huv⟩ := ih hu
      refine ⟨k, v, hv, happlicable', fun m x hm hmn hx => ?_, ?_⟩
      · by_cases hlast : m = n + 1
        · rw [hlast, hw] at hx
          cases hx
          exact happlicable
        · exact hlater m x hm (by omega) hx
      · rw [Candidate.apply_eq_marked happly happlicable, huv]
        rfl

end Succession

/-- The candidate was stored, was applicable then, and has not been applicable since. -/
def LastApplicable {ι : Type} (ws : List (Write ι)) (v : Candidate) : Prop :=
  ∃ (k : Nat) (w : Write ι), ws[k]? = some w ∧ w.stored.candidate = v ∧ v.applicable = true ∧
    ∀ (m : Nat) (u : Write ι), k < m → ws[m]? = some u → u.stored.candidate.applicable = false

/-- What is loaded is the last applicable version, with the mark or without. -/
theorem System.Lawful.exists_lastApplicable {ι : Type} {s : System ι} (h : s.Lawful)
    {current : StoredCandidate} (hload : s.store.load id = some current) :
    ∃ v, LastApplicable (s.history id) v ∧ v.Reconciled ∧
      current.candidate = { v with applicable := current.candidate.applicable } := by
  rw [h.load_eq] at hload
  obtain ⟨w, hw, rfl⟩ := Option.map_eq_some_iff.1 hload
  rw [List.getLast?_eq_getElem?] at hw
  obtain ⟨k, v, hv, happlicable, hlater, hwv⟩ := (h.succession id).exists_applicable hw
  refine ⟨v.stored.candidate, ⟨k, v, hv, rfl, happlicable, fun m u hm hu => ?_⟩,
    (h.succession id).reconciled hv, hwv⟩
  have hlt : m < (s.history id).length := (List.getElem?_eq_some_iff.1 hu).1
  exact hlater m u hm (by omega) hu

/-- On any store that came about through the service, facts that earn no points are refused for their
reason.  Where no candidate is stored, nothing is stored or offered; where one is, it is marked, in a new
version unless it was marked before.  Whatever calls follow that give it no points, it stays as it is,
and every request on it is refused.  Points equal to those under the mark bring back the last version
that was applicable, with all decisions, as the version after the marked one. -/
theorem System.applicability_play {ι : Type} [DecidableEq ι] (turns : List (Turn ι)) (attempts : Nat)
    (hbad : scoreThrough provider facts = .error (.invalidFacts reason)) :
    let s := (initial : System ι).play turns
    let id := facts.candidate
    let evaluation := (evaluate provider attempts facts).run backend s.store
    let offered := ((evaluate provider attempts facts).exchanges backend s.store).filterMap offered?
    evaluation.1 = .error (.notApplicable reason) ∧
    (s.store.load id = none → evaluation.2 = s.store ∧ offered = []) ∧
    ∀ current, s.store.load id = some current →
      ∃ marked v, evaluation.2.load id = some marked ∧
        Marks s.store evaluation.2 offered current marked ∧
        LastApplicable (s.history id) v ∧ marked.candidate = v.markNotApplicable ∧
        ∀ calls : List Call, (∀ call ∈ calls, call.target = id → ¬ call.Scores) →
          let later := ((inTurn calls).run backend evaluation.2).2
          later.load id = some marked ∧
          (∀ r time, (updateApproval id r time).run backend later = (.error (refusal marked id r), later) ∧
            ((updateApproval id r time).exchanges backend later).filterMap offered? = []) ∧
          ∀ (provider' : OrganizationProvider) (attempts' : Nat) (facts' : PublicationFacts)
            (e : PointEvaluation), facts'.candidate = id → scoreThrough provider' facts' = .ok e →
            (e.calculation == marked.candidate.points) = true →
            ∃ restored after, (evaluate provider' attempts' facts').run backend later =
                (.ok ⟨restored, e.excluded, true⟩, after) ∧
              after.load id = some restored ∧ restored.version = marked.version + 1 ∧
              restored.candidate = { v with points := e.calculation } ∧
              (restored.candidate == v) = true := by
  intro s id evaluation offered
  have hlawful : s.Lawful := lawful_play lawful_initial turns
  have hs : s.store.Filed := hlawful.filed
  refine ⟨congrArg Prod.fst (run_evaluate_of_invalidFacts hs hbad attempts),
    evaluate_of_invalidFacts_of_none hs hbad attempts, fun current hcurrent => ?_⟩
  obtain ⟨marked, hload, hmarks⟩ := exists_marks hs hbad attempts hcurrent
  obtain ⟨v, hlast, hreconciled, hv⟩ := hlawful.exists_lastApplicable hcurrent
  have hfiled : evaluation.2.Filed := by
    have hcall := (run_session_of_ne (.evaluate provider attempts facts) hs).1
    rwa [run_session_evaluate] at hcall
  have hmarked : marked.candidate = v.markNotApplicable := by
    rw [hmarks.candidate, hv]
    rfl
  have happlicable : marked.candidate.applicable = false := by rw [hmarked]; rfl
  refine ⟨marked, v, hload, hmarks, hlast, hmarked, fun calls hcalls => ?_⟩
  intro later
  obtain ⟨hlater, hkept⟩ := load_inTurn_of_marked hfiled hload happlicable hcalls
  refine ⟨hkept, run_updateApproval_of_marked hlater hkept happlicable, ?_⟩
  intro provider' attempts' facts' e hid he hpoints
  rw [hmarked] at hpoints
  have hkept' : later.load facts'.candidate = some marked := by rw [hid]; exact hkept
  obtain ⟨k, w, -, -, hvapplicable, -⟩ := hlast
  obtain ⟨after, hrun, hafter⟩ :=
    run_evaluate_of_marked hlater hkept' hmarked hvapplicable hreconciled he hpoints attempts'
  rw [hid] at hafter
  exact ⟨_, after, hrun, hafter, rfl, rfl, Candidate.beq_with_points hpoints⟩

/-- An institution approves; then the channel loses its level, and while it has none a change of mind is
refused, the level is missing once more and another publication is scored. -/
theorem System.applicability_play_approved :
    let provider : OrganizationProvider := fun id => .ok [.blank id]
    let facts (publication : String) (level : ScientificValue) : PublicationFacts :=
      ⟨⟨publication⟩, .academicArticle, ⟨"j", .journal, level⟩, [⟨.verified "x", [⟨"a"⟩]⟩], by decide⟩
    let review (action : ApprovalAction) : Call := .updateApproval ⟨"p"⟩ ⟨⟨"a"⟩, action, ⟨"c"⟩, none⟩
      ⟨⟨2026, 1, 1, by decide, by decide⟩, 0, 0, 0⟩
    let perform (call : Call) : List (Turn Unit) :=
      .move (.begin () call) :: List.replicate 3 (.move (.proceed () (.ok ())))
    let turns := perform (.evaluate provider 3 (facts "p" .levelOne)) ++
      perform (review (.decide .approved none))
    let s := (initial : System Unit).play turns
    let evaluation := (evaluate provider 3 (facts "p" .levelZero)).run backend s.store
    let calls := [review .reopen, .evaluate provider 3 (facts "p" .levelZero),
      .evaluate provider 3 (facts "q" .levelOne)]
    let later := ((inTurn calls).run backend evaluation.2).2
    evaluation.1 = .error (.notApplicable (.channelNotRated .levelZero)) ∧
      ∃ restored after, (evaluate provider 3 (facts "p" .levelOne)).run backend later =
          (.ok ⟨restored, [], true⟩, after) ∧ after.load ⟨"p"⟩ = some restored ∧
        restored.version = 4 ∧
        restored.candidate.approvals.values.map Approval.status = [.approved] := by
  intro provider facts review perform turns s evaluation calls later
  have hbad : scoreThrough provider (facts "p" .levelZero) =
      .error (.invalidFacts (.channelNotRated .levelZero)) := by rfl
  have hcalls : ∀ call ∈ calls, call.target = ⟨"p"⟩ → ¬ call.Scores := by
    intro call hcall hid
    simp only [calls, List.mem_cons, List.not_mem_nil, or_false] at hcall
    rcases hcall with rfl | rfl | rfl
    · rintro ⟨points, hpoints⟩
      cases hpoints
    · rintro ⟨points, hpoints⟩
      rw [Call.event?, hbad] at hpoints
      cases hpoints
    · exact absurd hid (by decide)
  have hscored : (scoreThrough provider (facts "p" .levelOne)).toOption.bind (fun e =>
      (s.store.load ⟨"p"⟩).map fun r => (e.excluded, e.calculation == r.candidate.points, r.version,
        r.candidate.applicable, r.candidate.approvals.values.map Approval.status)) =
      some ([], true, 2, true, [.approved]) := by decide +kernel
  obtain ⟨e, he, hscored⟩ := Option.bind_eq_some_iff.1 hscored
  obtain ⟨current, hcurrent, hscored⟩ := Option.map_eq_some_iff.1 hscored
  simp only [Prod.mk.injEq] at hscored
  obtain ⟨hexcluded, hpoints, hversion, happlicable, hstatus⟩ := hscored
  obtain ⟨hrefused, -, hmarked⟩ := applicability_play turns 3 hbad
  obtain ⟨marked, v, -, hmarks, -, hv, hlater⟩ := hmarked current hcurrent
  obtain ⟨-, -, hrestored⟩ := hlater calls hcalls
  have hpoints' : (e.calculation == marked.candidate.points) = true := by
    rw [hmarks.candidate]
    exact hpoints
  obtain ⟨restored, after, hrun, hafter, hrestored, hcandidate, -⟩ :=
    hrestored provider 3 (facts "p" .levelOne) e rfl (toOption_eq_some_iff.1 he) hpoints'
  rw [hexcluded] at hrun
  refine ⟨hrefused, restored, after, hrun, hafter, ?_, ?_⟩
  · rw [hrestored, (hmarks.first happlicable).1, hversion]
  · have happrovals : v.approvals = current.candidate.approvals := by
      rw [hmarks.candidate] at hv
      exact (congrArg Candidate.approvals hv).symm
    rw [hcandidate, ← hstatus, ← happrovals]

end Service

end PublicationIndicator
