import PublicationIndicator.Proofs.Service.Atomicity
import PublicationIndicator.Proofs.Service.Convergence
import PublicationIndicator.Proofs.Service.Decision

/-!
# PublicationIndicator.Proofs.Service.Alone — what a call does to a store that nobody else uses

Where nobody writes in between, a call sees one version of its candidate, and what it does follows from
that version.  Of a store that does not fail this is said by `run_evaluate_of_ok`,
`run_evaluate_of_invalidFacts` and `run_updateApproval`, and of one that may fail by `of_path_writeFrom`
and `Reviewed.stored`.  The store keeps each candidate under its own name (`CandidateStore.Filed`), as
one does that was written through the service.
-/

namespace PublicationIndicator

/-! ### Sessions in a row -/

namespace Session

variable {α β σ : Type} (b : Backend σ) (s : Session α) (f : α → Session β) (w : σ)

theorem run_bind : (s >>= f).run b w = (f (s.run b w).1).run b (s.run b w).2 := by
  change (s.andThen f).run b w = _
  induction s generalizing w with
  | done a => rfl
  | load id next ih => exact ih _ _
  | save c expected next ih => exact ih _ _
  | publish u next ih => exact ih _ _

theorem exchanges_bind : (s >>= f).exchanges b w =
    s.exchanges b w ++ (f (s.run b w).1).exchanges b (s.run b w).2 := by
  change (s.andThen f).exchanges b w = _
  induction s generalizing w with
  | done a => rfl
  | load id next ih => exact congrArg _ (ih _ _)
  | save c expected next ih => exact congrArg _ (ih _ _)
  | publish u next ih => exact congrArg _ (ih _ _)

end Session

/-! ### Names -/

namespace CandidateStore

/-- Each candidate is kept under its own name. -/
def Filed (s : CandidateStore) : Prop := ∀ id r, s.load id = some r → r.candidate.id = id

variable {s s' : CandidateStore} {c : Candidate} {expected : Option Nat} {version : Nat}

theorem load_of_save_of_ne {id : CandidateId} (h : s.save c expected = .ok (version, s'))
    (hid : id ≠ c.id) : s'.load id = s.load id := by
  obtain ⟨-, -, rfl⟩ := save_eq_ok_iff.1 h
  rw [load, load, SortedMap.get?_insert_of_ne hid]

theorem Filed.save (hs : s.Filed) (h : s.save c expected = .ok (version, s')) : s'.Filed := by
  intro id r hr
  by_cases hid : id = c.id
  · subst hid
    rw [load_of_save h] at hr
    cases hr
    rfl
  · rw [load_of_save_of_ne h hid] at hr
    exact hs id r hr

/-- A candidate is saved if the version expected is that of what is loaded under its name. -/
theorem save_of_load (s : CandidateStore) (c : Candidate) :
    let version := ((s.load c.id).map StoredCandidate.version).elim 1 (· + 1)
    s.save c ((s.load c.id).map StoredCandidate.version) =
      .ok (version, ⟨s.records.insert c.id ⟨c, version⟩⟩) :=
  save_eq_ok_iff.2 ⟨s.version?_eq_map_load c.id, rfl, rfl⟩

theorem backend_save_of_load (s : CandidateStore) (c : Candidate) :
    let version := ((s.load c.id).map StoredCandidate.version).elim 1 (· + 1)
    backend.save c ((s.load c.id).map StoredCandidate.version) s =
      (.ok version, ⟨s.records.insert c.id ⟨c, version⟩⟩) := by
  simp [backend, s.save_of_load c]

end CandidateStore

theorem Candidate.beq_markNotApplicable {c : Candidate} (h : c.applicable = true) :
    (c == c.markNotApplicable) = false := by
  change ((c.id == c.id) && ((c.publication == c.publication) && ((c.applicable == false) &&
    ((c.points == c.points) && (c.approvals == c.approvals))))) = false
  simp [h]

namespace Service

/-- What clients have written through the service is kept under its own name. -/
theorem System.Lawful.filed {ι : Type} {s : System ι} (h : s.Lawful) : s.store.Filed := by
  intro id r hr
  rw [h.load_eq] at hr
  obtain ⟨w, hw, rfl⟩ := Option.map_eq_some_iff.1 hr
  exact (System.mem_history.1 (List.mem_of_getLast? hw)).2

open Session CandidateStore

/-! ### Writing -/

variable {id : CandidateId} {propose : Option Candidate → Option Candidate} {attempts left : Nat}
  {before after : CandidateStore} {t : List Exchange}

/-- A notification that is taken changes nothing in the store. -/
theorem of_path_announce {α : Type} {u : StoredCandidate} {result r : α}
    (h : (announce u result).Path t (.ok r)) (ha : before.Answers t after) :
    r = result ∧ after = before := by
  rcases path_announce h with ⟨rfl, hr⟩ | ⟨p, -, hr⟩
  · cases hr
    cases ha with
    | publish ha =>
      cases ha
      exact ⟨rfl, rfl⟩
  · cases hr

/-- What a write comes to that does not fail, however often it is tried: it finds nothing new, or it
stores what is proposed for what was stored at first. -/
theorem of_path_writeFrom {result : Option (StoredCandidate × Bool)}
    (h : (writeFrom id propose attempts left).Path t (.ok result)) (ha : before.Answers t after) :
    (nothingNew propose (before.load id) = true ∧ after = before ∧
      result = (before.load id).map fun s => (s, false)) ∨
    ∃ c version, propose ((before.load id).map StoredCandidate.candidate) = some c ∧
      before.save c ((before.load id).map StoredCandidate.version) = .ok (version, after) ∧
      result = some (⟨c, version⟩, true) := by
  induction left generalizing t with
  | zero =>
    obtain ⟨-, hr⟩ := h
    cases hr
  | succ left ih =>
    cases round_of_path h with
    | nothing current hnothing =>
      cases ha with
      | load ha =>
        cases ha
        exact .inl ⟨hnothing, rfl, rfl⟩
    | saved current c version hc hrest =>
      cases ha with
      | load ha =>
        cases ha with
        | save hsave ha =>
          obtain ⟨rfl, rfl⟩ := of_path_announce hrest ha
          exact .inr ⟨c, version, hc, hsave, rfl⟩
    | lost current c id' expected actual hrest =>
      -- after a conflict, what is loaded is still what was loaded before
      cases ha with
      | load ha =>
        cases ha with
        | saveFailed ha => exact ih hrest ha

/-- How a write goes on once the save of a candidate was answered. -/
def afterSave (id : CandidateId) (propose : Option Candidate → Option Candidate)
    (attempts left : Nat) (c : Candidate) :
    Except StoreError Nat → Session (Except ServiceError (Option (StoredCandidate × Bool)))
  | .ok version => announce ⟨c, version⟩ (some (⟨c, version⟩, true))
  | .error (.concurrentModification _ _ _) => writeFrom id propose attempts left
  | .error e => .done (.error (.store e))

section Backend

variable {σ : Type} {b : Backend σ} {w : σ} {current : Option StoredCandidate}

/-- Where there is nothing new, a write is over after one load. -/
theorem writeFrom_of_nothingNew (hload : b.load id w = (.ok current, w))
    (h : nothingNew propose current = true) (attempts left : Nat) :
    (writeFrom id propose attempts (left + 1)).run b w = (.ok (current.map fun s => (s, false)), w) ∧
      (writeFrom id propose attempts (left + 1)).exchanges b w = [.load id (.ok current)] := by
  cases hc : propose (current.map StoredCandidate.candidate) with
  | none => simp [writeFrom, run, exchanges, hload, hc]
  | some c =>
    rw [nothingNew, hc] at h
    have hstored : isStored current c = true := h
    simp [writeFrom, run, exchanges, hload, hc, hstored]

/-- Something new is saved, and the write goes on as the save is answered. -/
theorem writeFrom_of_new {c : Candidate} {answer : Except StoreError Nat} {after : σ}
    (hload : b.load id w = (.ok current, w))
    (hc : propose (current.map StoredCandidate.candidate) = some c) (hnew : isStored current c = false)
    (hsave : b.save c (current.map StoredCandidate.version) w = (answer, after))
    (attempts left : Nat) :
    let rest := afterSave id propose attempts left c answer
    (writeFrom id propose attempts (left + 1)).run b w = rest.run b after ∧
      (writeFrom id propose attempts (left + 1)).exchanges b w = .load id (.ok current) ::
        .save c (current.map StoredCandidate.version) answer :: rest.exchanges b after := by
  constructor
  · simp [writeFrom, run, hload, hc, hnew, hsave]
    rfl
  · simp [writeFrom, exchanges, hload, hc, hnew, hsave]
    rfl

end Backend

/-- There is always one attempt at least. -/
theorem exists_write_eq (attempts : Nat) (id : CandidateId)
    (propose : Option Candidate → Option Candidate) :
    ∃ left, write attempts id propose = writeFrom id propose (left + 1) (left + 1) := by
  obtain ⟨left, hleft⟩ : ∃ left, max attempts 1 = left + 1 := ⟨max attempts 1 - 1, by omega⟩
  exact ⟨left, by rw [write, hleft]⟩

theorem run_write_of_nothingNew (attempts : Nat) (store : CandidateStore)
    (h : nothingNew propose (store.load id) = true) :
    (write attempts id propose).run backend store =
        (.ok ((store.load id).map fun s => (s, false)), store) ∧
      (write attempts id propose).exchanges backend store = [.load id (.ok (store.load id))] := by
  obtain ⟨left, hwrite⟩ := exists_write_eq attempts id propose
  rw [hwrite]
  exact writeFrom_of_nothingNew rfl h (left + 1) left

/-- Something new is stored at the next version. -/
theorem run_write_of_new (attempts : Nat) (store : CandidateStore) {c : Candidate} (hid : c.id = id)
    (hc : propose ((store.load id).map StoredCandidate.candidate) = some c)
    (hnew : isStored (store.load id) c = false) :
    let version := ((store.load id).map StoredCandidate.version).elim 1 (· + 1)
    (write attempts id propose).run backend store =
      (.ok (some (⟨c, version⟩, true)), ⟨store.records.insert id ⟨c, version⟩⟩) := by
  subst hid
  intro version
  obtain ⟨left, hwrite⟩ := exists_write_eq attempts c.id propose
  rw [hwrite, (writeFrom_of_new rfl hc hnew (store.backend_save_of_load c) (left + 1) left).1]
  rfl

/-! ### Evaluating -/

variable {provider : OrganizationProvider} {facts : PublicationFacts} {e : PointEvaluation}
  {store : CandidateStore}

/-- Points leave something to write unless they change nothing. -/
theorem nothingNew_proposePoints (publication : PublicationId) (points : PointCalculation)
    (current : Option StoredCandidate) :
    nothingNew (proposePoints publication points) current = !outdated points current := by
  cases current with
  | none => rfl
  | some r =>
    change (r.candidate == r.candidate.recalculate points) =
      !!(r.candidate == r.candidate.recalculate points)
    rw [Bool.not_not]

/-- What an evaluation does that finds points: the candidate is kept as the points make it. -/
theorem run_evaluate_of_ok (hs : store.Filed) (he : scoreThrough provider facts = .ok e) (attempts : Nat) :
    let current := store.load facts.candidate
    let final := revised facts.publication e.calculation current
    ∃ after, (evaluate provider attempts facts).run backend store =
        (.ok ⟨final, e.excluded, outdated e.calculation current⟩, after) ∧
      after.load facts.candidate = some final := by
  intro current final
  rw [evaluate, he]
  simp only [run_bind]
  cases hout : outdated e.calculation current with
  | false =>
    have hcurrent : store.load facts.candidate = some final := eq_some_revised facts.publication hout
    have hnothing : nothingNew (proposePoints facts.publication e.calculation) current = true := by
      rw [nothingNew_proposePoints, hout]
      rfl
    rw [(run_write_of_nothingNew attempts store hnothing).1, hcurrent]
    exact ⟨store, rfl, hcurrent⟩
  | true =>
    obtain ⟨hpropose, hversion, hnew⟩ := revised_of_outdated facts.publication hout
    have hid : final.candidate.id = facts.candidate := id_revised fun r hr => hs _ r hr
    rw [run_write_of_new attempts store hid hpropose hnew, ← hversion]
    have hnormal : final.candidate.normalized = final.candidate :=
      normalized_revised fun r hr => normalized_of_load hr
    refine ⟨_, rfl, ?_⟩
    change CandidateStore.load ⟨store.records.insert facts.candidate final⟩ facts.candidate = some final
    rw [CandidateStore.load, SortedMap.get?_insert_self, Option.map_some, hnormal]

/-- What an evaluation does whose facts earn no points: a candidate that could earn some is marked. -/
theorem run_evaluate_of_invalidFacts (hs : store.Filed) {reason : InvalidFacts}
    (he : scoreThrough provider facts = .error (.invalidFacts reason)) (attempts : Nat) :
    (evaluate provider attempts facts).run backend store =
      (.error (.notApplicable reason),
        match store.load facts.candidate with
        | none => store
        | some current =>
          if current.candidate.applicable then
            ⟨store.records.insert facts.candidate
              ⟨current.candidate.markNotApplicable, current.version + 1⟩⟩
          else store) := by
  rw [evaluate, he]
  simp only [run_bind]
  cases hcurrent : store.load facts.candidate with
  | none =>
    have hnothing : nothingNew proposeNotApplicable (store.load facts.candidate) = true := by
      rw [hcurrent]
      rfl
    rw [(run_write_of_nothingNew attempts store hnothing).1]
    rfl
  | some current =>
    cases happlicable : current.candidate.applicable with
    | false =>
      have hnothing : nothingNew proposeNotApplicable (store.load facts.candidate) = true := by
        simp [nothingNew, proposeNotApplicable, hcurrent, happlicable]
      rw [(run_write_of_nothingNew attempts store hnothing).1]
      simp only [happlicable, Bool.false_eq_true, if_false]
      rfl
    | true =>
      have hid : current.candidate.markNotApplicable.id = facts.candidate := hs _ _ hcurrent
      have hpropose :
          proposeNotApplicable ((store.load facts.candidate).map StoredCandidate.candidate) =
            some current.candidate.markNotApplicable := by
        simp [proposeNotApplicable, hcurrent, happlicable]
      have hnew :
          isStored (store.load facts.candidate) current.candidate.markNotApplicable = false := by
        rw [hcurrent]
        exact Candidate.beq_markNotApplicable happlicable
      rw [run_write_of_new attempts store hid hpropose hnew, hcurrent]
      simp only [happlicable, if_true]
      rfl

/-- A defect in the calculation leaves everything as it was. -/
theorem run_evaluate_of_defect {defect : CalculationDefect}
    (he : scoreThrough provider facts = .error (.defect defect)) (attempts : Nat) :
    (evaluate provider attempts facts).run backend store = (.error (.calculation defect), store) := by
  rw [evaluate, he]
  rfl

/-! ### Reviewing -/

/-- A load and a save that were carried out, and a notification, taken or not. -/
theorem of_answers_announced {current : Option StoredCandidate} {c : Candidate} {expected : Option Nat}
    {version : Nat} {u : StoredCandidate} {answer : Except PublishError Unit}
    (h : before.Answers [.load id (.ok current), .save c expected (.ok version), .publish u answer]
      after) : before.load id = current ∧ before.save c expected = .ok (version, after) := by
  generalize hanswer : Except.ok current = loaded at h
  cases h with
  | loadFailed h => cases hanswer
  | load h =>
    cases hanswer
    cases h with
    | save hsave h =>
      cases h with
      | publish h =>
        cases h
        exact ⟨rfl, hsave⟩

/-- A review leaves the store as it is, or stores what the request makes of the version kept there. -/
theorem Reviewed.stored {request : ApprovalRequest} {time : Instant}
    {result : Except ServiceError StoredCandidate} (h : Reviewed id request time t result)
    (ha : before.Answers t after) :
    after = before ∨ ∃ current next version, before.load id = some current ∧
      current.candidate.apply (.approval request time) = .ok next ∧
      before.save next (some current.version) = .ok (version, after) := by
  cases h with
  | refused answer he =>
    left
    exact ha.eq_of_quiet (Exchange.quiet_cons rfl rfl Exchange.quiet_nil)
  | unsaved happly e =>
    left
    exact ha.eq_of_quiet (Exchange.quiet_cons rfl rfl (Exchange.quiet_cons rfl rfl Exchange.quiet_nil))
  | @announced current next happly version =>
    right
    obtain ⟨hload, hsave⟩ := of_answers_announced ha
    exact ⟨current, next, version, hload, happly, hsave⟩
  | @unannounced current next happly version p =>
    right
    obtain ⟨hload, hsave⟩ := of_answers_announced ha
    exact ⟨current, next, version, hload, happly, hsave⟩

/-- What a review does, by the version that it finds. -/
theorem run_updateApproval (hs : store.Filed) (r : ApprovalRequest) (time : Instant) :
    (updateApproval id r time).run backend store =
      match store.load id with
      | none => (.error (.store .notFound), store)
      | some current =>
        if isStale r current.version then
          (.error (.store (.concurrentModification id r.expectedVersion (some current.version))), store)
        else
          match current.candidate.apply (.approval r time) with
          | .error e => (.error (.candidate e), store)
          | .ok next =>
            (.ok ⟨next, current.version + 1⟩,
              ⟨store.records.insert id ⟨next, current.version + 1⟩⟩) := by
  cases hcurrent : store.load id with
  | none => simp [updateApproval, run, backend, hcurrent]
  | some current =>
    by_cases hstale : isStale r current.version = true
    · simp [updateApproval, run, backend, hcurrent, hstale]
    · cases happly : current.candidate.apply (.approval r time) with
      | error e => simp [updateApproval, run, backend, hcurrent, hstale, happly]
      | ok next =>
        have hid : next.id = id := (Candidate.apply_id happly).1.trans (hs id current hcurrent)
        have hsave := store.save_of_load next
        rw [hid, hcurrent] at hsave
        simp only [Option.map_some, Option.elim_some] at hsave
        simp [updateApproval, announce, run, backend, hcurrent, hstale, happly, hsave]

end Service

end PublicationIndicator
