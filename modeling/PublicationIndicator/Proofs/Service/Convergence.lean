import PublicationIndicator.Proofs.Candidate.Recalculation
import PublicationIndicator.Proofs.Service.Contention

/-!
# PublicationIndicator.Proofs.Service.Convergence — evaluations of the same facts agree

Any number of clients evaluate the same facts on one store, and nobody else writes.  What is stored is
brought up to date at most once, and since new points change nothing the second time, every client but
that one finds its candidate as it wants it, at the latest after one conflict.
-/

namespace PublicationIndicator

theorem Session.andThen_andThen {α β γ : Type} (s : Session α) (f : α → Session β) (g : β → Session γ) :
    (s.andThen f).andThen g = s.andThen fun a => (f a).andThen g := by
  induction s with
  | done a => rfl
  | load id next ih => simp only [andThen, ih]
  | save c expected next ih => simp only [andThen, ih]
  | publish u next ih => simp only [andThen, ih]

namespace Service

/-! ### What an evaluation comes to -/

/-- Is there no candidate, or one that the points change? -/
def outdated (points : PointCalculation) (current : Option StoredCandidate) : Bool :=
  current.all fun r => r.candidate != r.candidate.recalculate points

/-- What is kept once the points are known: a first candidate, the one that there is if the points do
not change it, and its next version otherwise. -/
def revised (publication : PublicationId) (points : PointCalculation) :
    Option StoredCandidate → StoredCandidate
  | none => ⟨.create publication points, 1⟩
  | some r =>
    if r.candidate == r.candidate.recalculate points then r
    else ⟨r.candidate.recalculate points, r.version + 1⟩

/-- The answer of an evaluation that found `e`, where `final` is kept. -/
def reported (e : PointEvaluation) (final : StoredCandidate) (changed : Bool) : Answer :=
  .report (.ok ⟨final, e.excluded, changed⟩)

variable {publication : PublicationId} {points : PointCalculation} {current : Option StoredCandidate}
  {r : StoredCandidate}

/-- Where the points change nothing, what is kept stays. -/
theorem eq_some_revised (publication : PublicationId) (h : outdated points current = false) :
    current = some (revised publication points current) := by
  cases current with
  | none => cases h
  | some r =>
    have hr : (r.candidate == r.candidate.recalculate points) = true := by
      simpa [outdated, bne] using h
    rw [revised, if_pos hr]

/-- Where they change something, the next version of what they make of it is to be written. -/
theorem revised_of_outdated (publication : PublicationId) (h : outdated points current = true) :
    proposePoints publication points (current.map StoredCandidate.candidate) =
        some (revised publication points current).candidate ∧
      (revised publication points current).version =
        (current.map StoredCandidate.version).elim 1 (· + 1) ∧
      isStored current (revised publication points current).candidate = false := by
  cases current with
  | none => exact ⟨rfl, rfl, rfl⟩
  | some r =>
    have hr : (r.candidate == r.candidate.recalculate points) = false := by
      simpa [outdated, bne] using h
    have hrevised : revised publication points (some r) =
        ⟨r.candidate.recalculate points, r.version + 1⟩ := by
      rw [revised, hr]
      rfl
    rw [hrevised]
    exact ⟨rfl, rfl, hr⟩

/-- The points change nothing any more. -/
theorem recalculate_revised : ((revised publication points current).candidate ==
    (revised publication points current).candidate.recalculate points) = true := by
  cases current with
  | none =>
    rw [revised, Candidate.recalculate_create]
    exact BEq.rfl
  | some r =>
    rw [revised]
    split
    · rename_i hr
      exact hr
    · rw [Candidate.recalculate_recalculate]
      exact BEq.rfl

theorem normalized_revised (h : ∀ r, current = some r → r.candidate.normalized = r.candidate) :
    (revised publication points current).candidate.normalized =
      (revised publication points current).candidate := by
  cases current with
  | none => exact Candidate.normalized_create _ _
  | some r =>
    have hr := h r rfl
    rw [revised]
    split
    · exact hr
    · rw [← Candidate.recalculate_normalized, hr]

/-- What is loaded is normalized. -/
theorem normalized_of_load {store : CandidateStore} {id : CandidateId} (h : store.load id = some r) :
    r.candidate.normalized = r.candidate := by
  obtain ⟨r, -, rfl⟩ := Option.map_eq_some_iff.1 h
  exact r.candidate.normalized_normalized

theorem id_revised (h : ∀ r, current = some r → r.candidate.id = publication.candidate) :
    (revised publication points current).candidate.id = publication.candidate := by
  cases current with
  | none => rfl
  | some r =>
    rw [revised]
    split <;> exact h r rfl

/-! ### The session of an evaluation -/

/-- How an evaluation that found `e` answers for its write. -/
def answered (e : PointEvaluation) : Except ServiceError (Option (StoredCandidate × Bool)) → Answer
  | .ok (some (stored, changed)) => reported e stored changed
  | .ok none => .report (.error (.store .notFound))
  | .error err => .report (.error err)

/-- What is left of an evaluation that found `e` and may write that often. -/
def writing (facts : PublicationFacts) (e : PointEvaluation) (attempts left : Nat) : Session Answer :=
  (writeFrom facts.candidate (proposePoints facts.publication e.calculation) attempts left).andThen
    fun r => .done (answered e r)

variable {provider : OrganizationProvider} {facts : PublicationFacts} {e : PointEvaluation}
  {final : StoredCandidate} {attempts left : Nat}

theorem session_evaluate (he : scoreThrough provider facts = .ok e) (attempts : Nat) :
    (Call.evaluate provider attempts facts).session =
      writing facts e (max attempts 1) (max attempts 1) := by
  have hsession : (Call.evaluate provider attempts facts).session =
      (evaluate provider attempts facts).andThen fun a => .done (.report a) := rfl
  rw [hsession, evaluate, he]
  refine (Session.andThen_andThen _ _ _).trans (congrArg _ (funext fun r => ?_))
  rcases r with err | _ | ⟨stored, changed⟩ <;> rfl

/-- Where the points change nothing, an evaluation is over after one load. -/
theorem settles_writing (hid : facts.candidate = final.candidate.id)
    (hfinal : (final.candidate == final.candidate.recalculate e.calculation) = true) (n : Nat) :
    (writing facts e attempts (left + 1)).Settles final (reported e final false) (n + 1) := by
  refine ⟨Nat.succ_pos n, hid, ?_⟩
  have hstored : isStored (some final) (final.candidate.recalculate e.calculation) = true := hfinal
  simp only [Option.map_some, proposePoints, hstored, if_true]
  rfl

/-- Where they change something, an evaluation with two attempts left writes, or meets a conflict and
loads again. -/
theorem contends_writing (h : outdated e.calculation current = true)
    (hfinal : final = revised facts.publication e.calculation current)
    (hid : facts.candidate = final.candidate.id) :
    (writing facts e attempts (left + 2)).Contends current final (reported e final true)
      (reported e final false) 3 := by
  obtain ⟨hpropose, hversion, hstored⟩ := revised_of_outdated facts.publication h
  rw [← hfinal] at hpropose hversion hstored
  have hagain : (final.candidate == final.candidate.recalculate e.calculation) = true := by
    rw [hfinal]
    exact recalculate_revised
  have hexpected : current.map StoredCandidate.version ≠ some final.version := by
    rw [hversion]
    cases current <;> simp
  -- three calls: a load, a save, and the announcement or the load after a conflict
  refine ⟨settles_writing hid hagain 2, ?_⟩
  simp only [hpropose, hstored]
  refine ⟨⟨by decide, rfl, hexpected, fun _ _ _ => settles_writing hid hagain 0⟩, rfl, rfl, ?_⟩
  exact ⟨by decide, rfl⟩

/-! ### All evaluations together -/

/-- At first every client has at least two attempts left. -/
theorem clients_started {ι : Type} {attempts : ι → Nat} {store : CandidateStore} {calls : ι → Call}
    {P : ι → Session Answer → Prop} (he : scoreThrough provider facts = .ok e)
    (hcalls : calls = fun i => .evaluate provider (attempts i) facts) (hattempts : ∀ i, 2 ≤ attempts i)
    (hP : ∀ i k, P i (writing facts e (k + 2) (k + 2))) :
    (System.started store calls).Clients calls P := by
  intro i
  obtain ⟨k, hk⟩ : ∃ k, max (attempts i) 1 = k + 2 :=
    ⟨max (attempts i) 1 - 2, by have := hattempts i; omega⟩
  have hsession : (calls i).session = writing facts e (k + 2) (k + 2) := by
    rw [hcalls, ← hk]
    exact session_evaluate he (attempts i)
  exact ⟨_, congrArg (fun rest => some (Running.mk (calls i) rest)) hsession, hP i k⟩

/-- However the calls of clients are interleaved that evaluate the same facts, on a store that keeps the
candidate under its own name, as every save does: after three calls on the store and the outlet a client
is done, and all who are done report the same version.  Nothing is written but that version, once, and
only if what was stored was outdated; who wrote it is the one that reports a change. -/
theorem evaluations_converge {ι : Type} [DecidableEq ι] (attempts : ι → Nat) (store : CandidateStore)
    (order : List ι) (he : scoreThrough provider facts = .ok e) (hattempts : ∀ i, 2 ≤ attempts i)
    (hid : ∀ r, store.load facts.candidate = some r → r.candidate.id = facts.candidate) :
    let calls (i : ι) : Call := .evaluate provider (attempts i) facts
    let s := (System.started store calls).run (order.map (.proceed · (.ok ())))
    let final := revised facts.publication e.calculation (store.load facts.candidate)
    ∃ writer : Option ι,
      (∀ i, 3 ≤ order.count i →
        s.running i = some ⟨calls i, .done (reported e final (writer = some i))⟩) ∧
      (∀ i a, s.running i = some ⟨calls i, .done a⟩ → a = reported e final (writer = some i)) ∧
      s.writes = (writer.toList.map fun i => ⟨i, calls i, final⟩) ∧
      ((∃ i a, s.running i = some ⟨calls i, .done a⟩) →
        (writer.isSome = outdated e.calculation (store.load facts.candidate)) ∧
          s.store.load facts.candidate = some final) := by
  intro calls s final
  have hfinal : facts.candidate = final.candidate.id := (id_revised hid).symm
  have hleft : ∀ i, 3 ≤ order.count i → order.foldl System.spend (fun _ => 3) i = 0 := by
    intro i hi
    rw [System.foldl_spend]
    omega
  cases hout : outdated e.calculation (store.load facts.candidate) with
  | false =>
    have hkept : store.load final.candidate.id = some final := by
      rw [← hfinal]
      exact eq_some_revised facts.publication hout
    have hstarted : (System.started store calls).Settled calls final (reported e final) none
        fun _ => 3 :=
      ⟨hkept, rfl, clients_started he rfl hattempts fun i k =>
        settles_writing hfinal recalculate_revised 2⟩
    have hrun := System.settled_run hstarted order
    refine ⟨none, fun i hi => hrun.running_eq (hleft i hi), fun i a hi => hrun.answer_eq hi,
      hrun.writes, fun _ => ⟨rfl, ?_⟩⟩
    rw [hfinal]
    exact hrun.kept
  | true =>
    have hkept : store.load final.candidate.id = store.load facts.candidate := by rw [← hfinal]
    have hstarted : (System.started store calls).Open calls (store.load facts.candidate) final
        (reported e final) fun _ => 3 :=
      ⟨hkept, rfl, clients_started he rfl hattempts fun i k => contends_writing hout rfl hfinal⟩
    have hversion := (revised_of_outdated facts.publication hout).2.1
    have hnormal : final.candidate.normalized = final.candidate :=
      normalized_revised fun r hr => normalized_of_load hr
    rcases System.open_run hstarted hversion hnormal order with hrun | ⟨i, hrun⟩
    · refine ⟨none, fun i hi => absurd (hleft i hi) hrun.left_ne_zero,
        fun i a hi => absurd hi hrun.not_done, hrun.writes, ?_⟩
      rintro ⟨i, a, hi⟩
      exact absurd hi hrun.not_done
    · refine ⟨some i, fun j hj => hrun.running_eq (hleft j hj), fun j a hj => hrun.answer_eq hj,
        hrun.writes, fun _ => ⟨rfl, ?_⟩⟩
      rw [hfinal]
      exact hrun.kept

/-- Two clients in turn on a candidate whose points were another institution's. -/
theorem evaluations_converge_in_turn :
    let provider : OrganizationProvider := fun id => .ok [.blank id]
    let facts : PublicationFacts :=
      ⟨⟨"p"⟩, .academicArticle, ⟨"j", .journal, .levelOne⟩, [⟨.verified "x", [⟨"a"⟩]⟩], by decide⟩
    let old : PointCalculation :=
      ⟨.academicArticle, ⟨"j", .journal, .levelOne⟩, true, .ofTenths 13, .one, 2, .one, [⟨⟨"b"⟩, .one, []⟩]⟩
    let store : CandidateStore := ⟨.ofList [(⟨"p"⟩, ⟨.create ⟨"p"⟩ old, 4⟩)]⟩
    let order := [true, false, true, false, true, false]
    let call (_ : Bool) : Call := .evaluate provider 2 facts
    let s := (System.started store call).run (order.map (.proceed · (.ok ())))
    ∃ e, scoreThrough provider facts = .ok e ∧
      (∀ r, store.load ⟨"p"⟩ = some r → r.candidate.id = ⟨"p"⟩) ∧
      ∃ final writer, final.version = 5 ∧
        (∀ i, s.running i = some ⟨call i, .done (reported e final (writer = some i))⟩) ∧
        s.writes = writer.toList.map fun i => ⟨i, call i, final⟩ := by
  intro provider facts old store order call s
  have hscored : (scoreThrough provider facts).toOption.map
      (fun e => (revised ⟨"p"⟩ e.calculation (store.load ⟨"p"⟩)).version) = some 5 := by decide +kernel
  have hid : ∀ r, store.load ⟨"p"⟩ = some r → r.candidate.id = ⟨"p"⟩ := by
    intro r hr
    cases hr
    rfl
  have hcount : ∀ i, 3 ≤ order.count i := by decide
  -- from here on it does not matter what is stored and who moves when
  clear_value store order
  cases he : scoreThrough provider facts with
  | error err =>
    rw [he] at hscored
    cases hscored
  | ok e =>
    rw [he] at hscored
    have hversion := Option.some.inj hscored
    obtain ⟨writer, hdone, -, hwrites, -⟩ :=
      evaluations_converge (fun _ => 2) store order he (fun _ => by decide) hid
    exact ⟨e, rfl, hid, _, writer, hversion, fun i => hdone i (hcount i), hwrites⟩

end Service

end PublicationIndicator
