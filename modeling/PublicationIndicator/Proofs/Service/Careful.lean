import PublicationIndicator.Service.Interleaving

/-!
# PublicationIndicator.Proofs.Service.Careful — sessions write what they make of what they loaded

`Session.Careful id makes` says of a session that it loads `id` only, and that each of its writes stores
what it makes of the candidate loaded last, against the version loaded with it.  This speaks of the
session alone, whatever the store answers.  Both calls of the service are careful (`careful_session`),
through every retry and every exit without a write.
-/

namespace PublicationIndicator

namespace Session

variable {α β : Type}

/-- Every write follows a load of `id` and stores what the session makes of the answer, against the
version in it; `seen` is that answer, as long as nothing was written after it. -/
def Careful (id : CandidateId) (makes : Option Candidate → Candidate → Prop) :
    Session α → (seen : Option (Option StoredCandidate)) → Prop
  | done _, _ => True
  | load id' next, _ =>
    id' = id ∧ (∀ current, (next (.ok current)).Careful id makes (some current)) ∧
      ∀ e, (next (.error e)).Careful id makes none
  | save c expected next, seen =>
    (∃ current, seen = some current ∧ expected = current.map StoredCandidate.version ∧
      makes (current.map StoredCandidate.candidate) c) ∧
      ∀ r, (next r).Careful id makes none
  | publish _ next, seen => ∀ r, (next r).Careful id makes seen

variable {id : CandidateId} {makes : Option Candidate → Candidate → Prop}

/-- What goes on carefully after a careful session is careful. -/
theorem careful_bind {s : Session α} {f : α → Session β} {seen : Option (Option StoredCandidate)}
    (hs : s.Careful id makes seen) (hf : ∀ a seen, (f a).Careful id makes seen) :
    (s >>= f).Careful id makes seen := by
  show (s.andThen f).Careful id makes seen
  induction s generalizing seen with
  | done a => exact hf a seen
  | load id' next ih =>
    obtain ⟨hid, hok, herror⟩ := hs
    exact ⟨hid, fun current => ih _ (hok current), fun e => ih _ (herror e)⟩
  | save c expected next ih =>
    obtain ⟨hc, hnext⟩ := hs
    exact ⟨hc, fun r => ih r (hnext r)⟩
  | publish u next ih => exact fun r => ih r (hs r)

end Session

namespace Service

open Session

variable {id : CandidateId} {makes : Option Candidate → Candidate → Prop}
  {seen : Option (Option StoredCandidate)}

theorem careful_announce {α : Type} (stored : StoredCandidate) (a : α) :
    (announce stored a).Careful id makes seen := by
  intro r
  cases r <;> trivial

/-- Trying again keeps a session careful: each attempt loads anew. -/
theorem careful_writeFrom {propose : Option Candidate → Option Candidate}
    (hp : ∀ b c, propose b = some c → makes b c) (attempts left : Nat) :
    (writeFrom id propose attempts left).Careful id makes seen := by
  induction left generalizing seen with
  | zero => trivial
  | succ left ih =>
    refine ⟨rfl, fun current => ?_, fun e => trivial⟩
    cases hc : propose (current.map StoredCandidate.candidate) with
    | none =>
      simp only [hc]
      trivial
    | some proposed =>
      simp only [hc]
      split
      · trivial
      · refine ⟨⟨current, rfl, rfl, hp _ _ hc⟩, fun r => ?_⟩
        cases r with
        | ok version => exact careful_announce _ _
        | error e =>
          cases e with
          | concurrentModification _ _ _ => exact ih
          | notFound => trivial
          | unavailable reason => trivial

/-- The candidate that a call makes of what is stored: a new one, or what its event leads to. -/
def Call.Makes (call : Call) : Option Candidate → Candidate → Prop
  | none, c => call.creation? = some c
  | some b, c => ∃ e, call.event? = some e ∧ b.apply e = .ok c

theorem careful_evaluate (provider : OrganizationProvider) (attempts : Nat)
    (facts : PublicationFacts) :
    (evaluate provider attempts facts).Careful facts.candidate
      (Call.evaluate provider attempts facts).Makes seen := by
  unfold evaluate
  cases hs : scoreThrough provider facts with
  | ok e =>
    refine careful_bind (careful_writeFrom ?_ _ _) ?_
    · rintro (_ | b) c hc <;> cases hc
      · simp [Call.Makes, Call.creation?, hs]
      · exact ⟨.pointsCalculated e.calculation, by simp [Call.event?, hs], rfl⟩
    · intro r seen
      split <;> trivial
  | error e =>
    cases e with
    | defect d => trivial
    | invalidFacts reason =>
      refine careful_bind (careful_writeFrom ?_ _ _) ?_
      · rintro (_ | b) c hc
        · cases hc
        · rw [proposeNotApplicable] at hc
          split at hc <;> cases hc
          exact ⟨.notApplicable, by simp [Call.event?, hs], rfl⟩
      · intro r seen
        split <;> trivial

theorem careful_updateApproval (request : ApprovalRequest) (time : Instant) :
    (updateApproval id request time).Careful id (Call.updateApproval id request time).Makes seen := by
  refine ⟨rfl, fun current => ?_, fun e => trivial⟩
  cases current with
  | none => trivial
  | some current =>
    dsimp only
    split
    · trivial
    · split
      · trivial
      · rename_i next hn
        refine ⟨⟨some current, rfl, rfl, .approval request time, rfl, hn⟩, fun r => ?_⟩
        cases r with
        | ok version => exact careful_announce _ _
        | error e => trivial

/-- Every call on the service is careful about its candidate. -/
theorem careful_session (call : Call) : call.session.Careful call.target call.Makes seen := by
  cases call with
  | evaluate provider attempts facts =>
    exact careful_bind (careful_evaluate provider attempts facts) fun _ _ => trivial
  | updateApproval id request time =>
    exact careful_bind (careful_updateApproval request time) fun _ _ => trivial

/-- What a call makes where nothing is stored is a new candidate with the points of a score. -/
theorem Call.exists_of_creation? {call : Call} {c : Candidate} (h : call.creation? = some c) :
    ∃ provider facts e, scoreThrough provider facts = .ok e ∧
      c = .create facts.publication e.calculation := by
  cases call with
  | evaluate provider attempts facts =>
    rw [creation?] at h
    split at h
    · rename_i e he
      cases h
      exact ⟨provider, facts, e, he, rfl⟩
    · cases h
  | updateApproval id request time => cases h

/-- The points that a call brings are those of a score. -/
theorem Call.exists_of_pointsCalculated {call : Call} {points : PointCalculation}
    (h : call.event? = some (.pointsCalculated points)) :
    ∃ provider facts e, scoreThrough provider facts = .ok e ∧ points = e.calculation := by
  cases call with
  | evaluate provider attempts facts =>
    rw [event?] at h
    split at h
    · rename_i e he
      cases h
      exact ⟨provider, facts, e, he, rfl⟩
    · cases h
    · cases h
  | updateApproval id request time => cases h

end Service

end PublicationIndicator
