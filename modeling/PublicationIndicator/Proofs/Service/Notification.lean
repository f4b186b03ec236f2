import PublicationIndicator.Proofs.Service.Atomicity
import PublicationIndicator.Service.Interleaving

/-!
# PublicationIndicator.Proofs.Service.Notification — what is stored is offered, and nothing else

Every way through a call offers what it wrote and offers nothing else (`mirrored_session`), so a run of
any calls offers exactly what it wrote, in the same order.  What a store writes for a candidate is
numbered without a gap and ends with what is kept (`Answers.versions`).  Both together say what a
listener is told, whatever goes wrong with the calls on the store and the outlet
(`offered_inTurn`).
-/

namespace PublicationIndicator

/-! ### Offers and writes -/

namespace Exchange

/-- What is offered is what is written, in the same order. -/
def Mirrored (t : List Exchange) : Prop := t.filterMap offered? = t.filterMap written?

variable {t u : List Exchange}

theorem Quiet.mirrored (h : Quiet t) : Mirrored t :=
  h.filterMap_offered?.trans h.filterMap_written?.symm

theorem Mirrored.append (ht : Mirrored t) (hu : Mirrored u) : Mirrored (t ++ u) := by
  rw [Mirrored, List.filterMap_append, List.filterMap_append, ht, hu]

/-- A write that is offered right after it. -/
theorem mirrored_stored (c : Candidate) (expected : Option Nat) (version : Nat)
    (answer : Except PublishError Unit) :
    Mirrored [.save c expected (.ok version), .publish ⟨c, version⟩ answer] := rfl

end Exchange

namespace Service

open Session Exchange

variable {t : List Exchange}

theorem Wrote.mirrored {r : Except ServiceError (Option (StoredCandidate × Bool))} (h : Wrote t r) :
    Mirrored t := by
  cases h with
  | nothing ht current => exact ht.mirrored
  | refused ht he => exact ht.mirrored
  | announced ht c expected version => exact ht.mirrored.append (mirrored_stored c expected version _)
  | unannounced ht c expected version p =>
    exact ht.mirrored.append (mirrored_stored c expected version _)

theorem Reviewed.mirrored {id : CandidateId} {request : ApprovalRequest} {time : Instant}
    {r : Except ServiceError StoredCandidate} (h : Reviewed id request time t r) : Mirrored t := by
  cases h <;> rfl

/-- A write whose result is only reported. -/
theorem mirrored_of_path_write {α : Type} {attempts : Nat} {id : CandidateId}
    {propose : Option Candidate → Option Candidate} {r : α}
    {f : Except ServiceError (Option (StoredCandidate × Bool)) → Session α}
    (hf : ∀ a u, (f a).Path u r → u = []) (h : (write attempts id propose >>= f).Path t r) :
    Mirrored t := by
  obtain ⟨a, t₁, t₂, rfl, hwrite, hrest⟩ := exists_path_of_bind h
  obtain rfl := hf a t₂ hrest
  rw [List.append_nil]
  exact (path_writeFrom hwrite).mirrored

theorem mirrored_evaluate {provider : OrganizationProvider} {attempts : Nat}
    {facts : PublicationFacts} {r : Except ServiceError EvaluationReport}
    (h : (evaluate provider attempts facts).Path t r) : Mirrored t := by
  unfold evaluate at h
  split at h
  · refine mirrored_of_path_write (fun a u hu => ?_) h
    cases a <;> exact hu.1
  · obtain ⟨rfl, -⟩ := h
    exact quiet_nil.mirrored
  · refine mirrored_of_path_write (fun a u hu => ?_) h
    rcases a with _ | _ | _ <;> exact hu.1

/-- Whatever the answers are, a call offers what it writes. -/
theorem mirrored_session {call : Call} {a : Answer} (h : call.session.Path t a) : Mirrored t := by
  cases call with
  | evaluate provider attempts facts =>
    obtain ⟨r, t₁, t₂, rfl, hcall, rfl, -⟩ := exists_path_of_bind h
    rw [List.append_nil]
    exact mirrored_evaluate hcall
  | updateApproval id request time =>
    obtain ⟨r, t₁, t₂, rfl, hcall, rfl, -⟩ := exists_path_of_bind h
    rw [List.append_nil]
    exact (path_updateApproval hcall).mirrored

theorem mirrored_inTurn {calls : List Call} {answers : List Answer}
    (h : (inTurn calls).Path t answers) : Mirrored t := by
  induction calls generalizing t answers with
  | nil =>
    obtain ⟨rfl, -⟩ := h
    exact quiet_nil.mirrored
  | cons call rest ih =>
    obtain ⟨a, t₁, t₂, rfl, hcall, hrest⟩ := exists_path_of_bind h
    obtain ⟨as, t₃, t₄, rfl, hcalls, rfl, -⟩ := exists_path_of_bind hrest
    rw [List.append_nil]
    exact (mirrored_session hcall).append (ih hcalls)

end Service

/-! ### Writes and the store -/

namespace CandidateStore

open Exchange

variable {s s' : CandidateStore} {t : List Exchange}

/-- The writes of a candidate have the versions after the one that was kept, and the last of them is kept
now. -/
theorem Answers.versions (h : s.Answers t s') (id : CandidateId) :
    let ws := (t.filterMap written?).filter (fun w => w.candidate.id = id)
    ws.map StoredCandidate.version = List.range' ((s.version? id).elim 1 (· + 1)) ws.length ∧
      s'.records.get? id = ws.getLast?.or (s.records.get? id) := by
  induction h with
  | nil => exact ⟨rfl, rfl⟩
  | load h ih => exact ih
  | loadFailed h ih => exact ih
  | saveFailed h ih => exact ih
  | publish h ih => exact ih
  | @save s s₁ s' c expected version t hs h ih =>
    obtain ⟨hexpected, hversion, rfl⟩ := save_eq_ok_iff.1 hs
    obtain ⟨hversions, hkept⟩ := ih
    have hcons : ((.save c expected (.ok version) :: t).filterMap written?) =
        ⟨c, version⟩ :: t.filterMap written? := rfl
    rw [hcons]
    by_cases hid : c.id = id
    · subst hid
      rw [version?, SortedMap.get?_insert_self] at hversions
      rw [SortedMap.get?_insert_self] at hkept
      rw [List.filter_cons_of_pos (by simp), hexpected, ← hversion]
      refine ⟨?_, ?_⟩
      · rw [List.map_cons, hversions, List.length_cons, List.range'_succ]
        rfl
      · rw [hkept, List.getLast?_cons]
        cases (List.filter _ _).getLast? <;> rfl
    · rw [version?, SortedMap.get?_insert_of_ne (Ne.symm hid)] at hversions
      rw [SortedMap.get?_insert_of_ne (Ne.symm hid)] at hkept
      rw [List.filter_cons_of_neg (by simpa using hid)]
      exact ⟨hversions, hkept⟩

end CandidateStore

/-- Whatever goes wrong with the store and the outlet: calls that are made one after the other offer what
they write, each write once and in the same order.  The offers of a candidate have the versions 1, 2, 3
and so on, and the last one is what the store keeps of it. -/
theorem Service.offered_inTurn (calls : List Call) (loads saves : List (Option StoreError))
    (publishes : List (Option PublishError)) :
    let w : FaultyStore := ⟨.empty, loads, saves, publishes⟩
    let t := (inTurn calls).exchanges FaultyStore.backend w
    let store := ((inTurn calls).run FaultyStore.backend w).2.store
    t.filterMap Exchange.offered? = t.filterMap Exchange.written? ∧
      ∀ id, let offered := (t.filterMap Exchange.offered?).filter (fun u => u.candidate.id = id)
        offered.map StoredCandidate.version = List.range' 1 offered.length ∧
          store.records.get? id = offered.getLast? := by
  intro w t store
  have hmirrored : Exchange.Mirrored t := mirrored_inTurn (Session.path_run _ _ w)
  have hanswers : CandidateStore.empty.Answers t store := w.answers_run _
  refine ⟨hmirrored, fun id => ?_⟩
  obtain ⟨hversions, hkept⟩ := hanswers.versions id
  rw [hmirrored]
  refine ⟨hversions, ?_⟩
  rw [hkept]
  exact Option.or_none

-- a conflict, a notification that is not taken and a store that fails a review: each write is offered
example :
    let facts (publication : String) : PublicationFacts :=
      ⟨⟨publication⟩, .academicArticle, ⟨"j", .journal, .levelOne⟩, [⟨.verified "x", [⟨"a"⟩]⟩], by decide⟩
    let evaluation (publication : String) : Service.Call :=
      .evaluate (fun id => .ok [.blank id]) 3 (facts publication)
    let decision : Service.Call := .updateApproval ⟨"p"⟩ ⟨⟨"a"⟩, .decide .approved none, ⟨"c"⟩, none⟩
      ⟨⟨2026, 1, 1, by decide, by decide⟩, 0, 0, 0⟩
    let w : FaultyStore := ⟨.empty, [], [some (.concurrentModification ⟨"p"⟩ none none), none, none,
      some (.unavailable "down")], [some ⟨"down"⟩]⟩
    let t := (Service.inTurn [evaluation "p", evaluation "q", decision, decision]).exchanges
      FaultyStore.backend w
    (t.filterMap Exchange.offered?).map (fun u => (u.candidate.id.text, u.version)) =
      [("p", 1), ("q", 1), ("p", 2)] := by
  decide +kernel

end PublicationIndicator
