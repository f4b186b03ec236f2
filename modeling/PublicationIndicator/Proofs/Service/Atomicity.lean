import PublicationIndicator.Proofs.Service.Exchange
import PublicationIndicator.Service.Evaluation

/-!
# PublicationIndicator.Proofs.Service.Atomicity — a call stores one version or leaves no trace

Whatever fails on the way, a call on the service writes at most once, and only just before it announces
what it wrote.  `Round` lists the ways through one attempt to write, and `path_writeFrom` what writing
may come to through any number of them; the
ways through the two calls follow from it, and with them what is in the store after a call that was
refused, that could not announce what it had stored, or that succeeded (`atomic_run`).
-/

namespace PublicationIndicator.Service

open Session Exchange

/-! ### Ways through a call -/

theorem path_announce {α : Type} {stored : StoredCandidate} {result : α} {t : List Exchange}
    {r : Except ServiceError α} (h : (announce stored result).Path t r) :
    (t = [.publish stored (.ok ())] ∧ r = .ok result) ∨
      ∃ e, t = [.publish stored (.error e)] ∧ r = .error (.publish e) := by
  obtain ⟨answer, rest, rfl, hrest⟩ := h
  cases answer with
  | ok _ =>
    obtain ⟨rfl, rfl⟩ := hrest
    exact .inl ⟨rfl, rfl⟩
  | error e =>
    obtain ⟨rfl, rfl⟩ := hrest
    exact .inr ⟨e, rfl, rfl⟩

/-- What writing comes to: there is nothing to write, it is refused, or one version is stored and
announced, whether the notification is taken or not. -/
inductive Wrote : List Exchange → Except ServiceError (Option (StoredCandidate × Bool)) → Prop where
  | nothing {t} (ht : Quiet t) (current : Option StoredCandidate) :
    Wrote t (.ok (current.map fun s => (s, false)))
  | refused {t e} (ht : Quiet t) (he : ∀ p, e ≠ .publish p) : Wrote t (.error e)
  | announced {t} (ht : Quiet t) (c : Candidate) (expected : Option Nat) (version : Nat) :
    Wrote (t ++ [.save c expected (.ok version), .publish ⟨c, version⟩ (.ok ())])
      (.ok (some (⟨c, version⟩, true)))
  | unannounced {t} (ht : Quiet t) (c : Candidate) (expected : Option Nat) (version : Nat)
    (p : PublishError) :
    Wrote (t ++ [.save c expected (.ok version), .publish ⟨c, version⟩ (.error p)])
      (.error (.publish p))

variable {t : List Exchange}

/-- What comes before does not matter if it leaves no trace. -/
theorem Wrote.cons {x : Exchange} {r : Except ServiceError (Option (StoredCandidate × Bool))}
    (hw : x.written? = none) (ho : x.offered? = none) (h : Wrote t r) : Wrote (x :: t) r := by
  cases h with
  | nothing ht current => exact .nothing (quiet_cons hw ho ht) current
  | refused ht he => exact .refused (quiet_cons hw ho ht) he
  | announced ht c expected version => exact .announced (quiet_cons hw ho ht) c expected version
  | unannounced ht c expected version p =>
    exact .unannounced (quiet_cons hw ho ht) c expected version p

variable {id : CandidateId} {propose : Option Candidate → Option Candidate} {attempts left : Nat}
  {r : Except ServiceError (Option (StoredCandidate × Bool))}

/-- Is nothing proposed, or nothing but what is stored? -/
def nothingNew (propose : Option Candidate → Option Candidate) (current : Option StoredCandidate) :
    Bool :=
  (propose (current.map StoredCandidate.candidate)).all (isStored current)

/-- The ways through a write that start with a round of a load and a save: all but a save that meets
another version end it. -/
inductive Round (id : CandidateId) (propose : Option Candidate → Option Candidate)
    (attempts left : Nat) :
    List Exchange → Except ServiceError (Option (StoredCandidate × Bool)) → Prop where
  | unread (e : StoreError) : Round id propose attempts left [.load id (.error e)] (.error (.store e))
  | nothing (current : Option StoredCandidate) (h : nothingNew propose current = true) :
    Round id propose attempts left [.load id (.ok current)] (.ok (current.map fun s => (s, false)))
  | saved {u a} (current : Option StoredCandidate) (c : Candidate) (version : Nat)
    (hc : propose (current.map StoredCandidate.candidate) = some c)
    (h : (announce ⟨c, version⟩ (some (⟨c, version⟩, true))).Path u a) :
    Round id propose attempts left (.load id (.ok current) ::
      .save c (current.map StoredCandidate.version) (.ok version) :: u) a
  | lost {u a} (current : Option StoredCandidate) (c : Candidate) (id' : CandidateId)
    (expected actual : Option Nat) (h : (writeFrom id propose attempts left).Path u a) :
    Round id propose attempts left (.load id (.ok current) ::
      .save c (current.map StoredCandidate.version)
        (.error (.concurrentModification id' expected actual)) :: u) a
  | unsaved (current : Option StoredCandidate) (c : Candidate) (e : StoreError)
    (he : ∀ id expected actual, e ≠ .concurrentModification id expected actual) :
    Round id propose attempts left [.load id (.ok current),
      .save c (current.map StoredCandidate.version) (.error e)] (.error (.store e))

theorem round_of_path (h : (writeFrom id propose attempts (left + 1)).Path t r) :
    Round id propose attempts left t r := by
  obtain ⟨answer, rest, rfl, hrest⟩ := h
  cases answer with
  | error e =>
    obtain ⟨rfl, rfl⟩ := hrest
    exact .unread e
  | ok current =>
    dsimp only at hrest
    split at hrest
    · rename_i hnone
      obtain ⟨rfl, rfl⟩ := hrest
      exact .nothing current (by rw [nothingNew, hnone]; rfl)
    · rename_i c hc
      split at hrest
      · rename_i hstored
        obtain ⟨rfl, rfl⟩ := hrest
        exact .nothing current (by rw [nothingNew, hc]; exact hstored)
      · obtain ⟨answer, rest, rfl, hrest⟩ := hrest
        cases answer with
        | ok version => exact .saved current c version hc hrest
        | error e =>
          cases e with
          | concurrentModification id' expected actual =>
            exact .lost current c id' expected actual hrest
          | notFound =>
            obtain ⟨rfl, rfl⟩ := hrest
            exact .unsaved current c .notFound nofun
          | unavailable reason =>
            obtain ⟨rfl, rfl⟩ := hrest
            exact .unsaved current c (.unavailable reason) nofun

/-- Writing stores one version or leaves no trace, however often it is tried. -/
theorem path_writeFrom (h : (writeFrom id propose attempts left).Path t r) : Wrote t r := by
  induction left generalizing t with
  | zero =>
    obtain ⟨rfl, rfl⟩ := h
    exact .refused quiet_nil nofun
  | succ left ih =>
    cases round_of_path h with
    | unread e => exact .refused (quiet_cons rfl rfl quiet_nil) nofun
    | nothing current hnothing => exact .nothing (quiet_cons rfl rfl quiet_nil) current
    | saved current c version hc h =>
      refine Wrote.cons rfl rfl ?_
      rcases path_announce h with ⟨rfl, rfl⟩ | ⟨p, rfl, rfl⟩
      · exact .announced quiet_nil c _ version
      · exact .unannounced quiet_nil c _ version p
    | lost current c id' expected actual h => exact .cons rfl rfl (.cons rfl rfl (ih h))
    | unsaved current c e he => exact .refused (quiet_cons rfl rfl (quiet_cons rfl rfl quiet_nil)) nofun

/-- An evaluation that fails, not because the facts earn no points, fails as its write does. -/
theorem path_evaluate {provider : OrganizationProvider} {attempts : Nat} {facts : PublicationFacts}
    {e : ServiceError} (h : (evaluate provider attempts facts).Path t (.error e))
    (he : ∀ reason, e ≠ .notApplicable reason) : Wrote t (.error e) := by
  unfold evaluate at h
  split at h
  · obtain ⟨a, t₁, t₂, rfl, hwrite, hrest⟩ := exists_path_of_bind h
    have hwrote := path_writeFrom hwrite
    cases a with
    | ok result =>
      obtain ⟨rfl, hr⟩ := hrest
      cases hr
      exact absurd rfl (he _)
    | error e' =>
      obtain ⟨rfl, hr⟩ := hrest
      cases hr
      rw [List.append_nil]
      exact hwrote
  · obtain ⟨rfl, hr⟩ := h
    cases hr
    exact .refused quiet_nil nofun
  · obtain ⟨a, t₁, t₂, rfl, hwrite, hrest⟩ := exists_path_of_bind h
    have hwrote := path_writeFrom hwrite
    cases a with
    | ok result =>
      cases result with
      | none =>
        obtain ⟨rfl, hr⟩ := hrest
        cases hr
        rw [List.append_nil]
        generalize hnone : Except.ok none = result at hwrote
        cases hwrote with
        | nothing ht current => exact .refused ht nofun
        | refused ht _ => cases hnone
        | announced ht c expected version => cases hnone
        | unannounced ht c expected version p => cases hnone
      | some result =>
        obtain ⟨rfl, hr⟩ := hrest
        cases hr
    | error e' =>
      obtain ⟨rfl, hr⟩ := hrest
      cases hr
      rw [List.append_nil]
      exact hwrote

/-- What a review comes to: it is refused for what was loaded, it meets a conflict or an outage, or what
the request makes of the loaded version is stored and announced. -/
inductive Reviewed (id : CandidateId) (request : ApprovalRequest) (time : Instant) :
    List Exchange → Except ServiceError StoredCandidate → Prop where
  | refused {e : ServiceError} (answer : Except StoreError (Option StoredCandidate))
    (he : ∀ p, e ≠ .publish p) : Reviewed id request time [.load id answer] (.error e)
  | unsaved {current : StoredCandidate} {next : Candidate}
    (happly : current.candidate.apply (.approval request time) = .ok next) (e : StoreError) :
    Reviewed id request time
      [.load id (.ok (some current)), .save next (some current.version) (.error e)] (.error (.store e))
  | announced {current : StoredCandidate} {next : Candidate}
    (happly : current.candidate.apply (.approval request time) = .ok next) (version : Nat) :
    Reviewed id request time
      [.load id (.ok (some current)), .save next (some current.version) (.ok version),
        .publish ⟨next, version⟩ (.ok ())] (.ok ⟨next, version⟩)
  | unannounced {current : StoredCandidate} {next : Candidate}
    (happly : current.candidate.apply (.approval request time) = .ok next) (version : Nat)
    (p : PublishError) :
    Reviewed id request time
      [.load id (.ok (some current)), .save next (some current.version) (.ok version),
        .publish ⟨next, version⟩ (.error p)] (.error (.publish p))

variable {id : CandidateId} {request : ApprovalRequest} {time : Instant}

theorem path_updateApproval {r : Except ServiceError StoredCandidate}
    (h : (updateApproval id request time).Path t r) : Reviewed id request time t r := by
  obtain ⟨answer, rest, rfl, hrest⟩ := h
  cases answer with
  | error e =>
    obtain ⟨rfl, rfl⟩ := hrest
    exact .refused _ nofun
  | ok current =>
    cases current with
    | none =>
      obtain ⟨rfl, rfl⟩ := hrest
      exact .refused _ nofun
    | some current =>
      dsimp only at hrest
      split at hrest
      · obtain ⟨rfl, rfl⟩ := hrest
        exact .refused _ nofun
      · split at hrest
        · obtain ⟨rfl, rfl⟩ := hrest
          exact .refused _ nofun
        · rename_i next happly
          obtain ⟨answer, rest, rfl, hrest⟩ := hrest
          cases answer with
          | error e =>
            obtain ⟨rfl, rfl⟩ := hrest
            exact .unsaved happly e
          | ok version =>
            rcases path_announce hrest with ⟨rfl, rfl⟩ | ⟨p, rfl, rfl⟩
            · exact .announced happly version
            · exact .unannounced happly version p

/-- A review saves at most once. -/
theorem Reviewed.countP_isSave_le {r : Except ServiceError StoredCandidate}
    (h : Reviewed id request time t r) : t.countP isSave ≤ 1 := by
  cases h <;> simp [isSave, List.countP_cons]

/-- A review that fails does so as a write does. -/
theorem Reviewed.wrote {e : ServiceError} (h : Reviewed id request time t (.error e)) :
    Wrote t (.error e) := by
  cases h with
  | refused answer he => exact .cons rfl rfl (.refused quiet_nil he)
  | unsaved happly e => exact .cons rfl rfl (.cons rfl rfl (.refused quiet_nil nofun))
  | @unannounced current next _ version p =>
    exact .cons rfl rfl (.unannounced quiet_nil next _ version p)

/-! ### What is stored afterwards -/

/-- Nothing changed in the store, and nothing was offered to anybody. -/
structure Untouched (before after : CandidateStore) (t : List Exchange) : Prop where
  store : after = before
  offered : t.filterMap offered? = []

/-- Exactly one version was stored, the next one of its candidate. -/
structure StoredOnce (before after : CandidateStore) (t : List Exchange) (r : StoredCandidate) :
    Prop where
  written : t.filterMap written? = [r]
  version : r.version = (before.version? r.candidate.id).elim 1 (· + 1)
  store : after = ⟨before.records.insert r.candidate.id r⟩

variable {before after : CandidateStore}

/-- A save that was carried out after nothing else stored the next version of its candidate. -/
theorem storedOnce_of_answers {c : Candidate} {expected : Option Nat} {version : Nat}
    {u : StoredCandidate} {answer : Except PublishError Unit} (ht : Quiet t)
    (h : before.Answers (t ++ [.save c expected (.ok version), .publish u answer]) after) :
    StoredOnce before after (t ++ [.save c expected (.ok version), .publish u answer]) ⟨c, version⟩ ∧
      before.version? c.id = expected := by
  cases h.of_quiet ht with
  | save hs hrest =>
    cases hrest with
    | publish hrest =>
      cases hrest
      obtain ⟨hexpected, hversion, hstore⟩ := CandidateStore.save_eq_ok_iff.1 hs
      refine ⟨⟨?_, ?_, hstore⟩, hexpected⟩
      · simp [ht.filterMap_written?, written?]
      · rw [hexpected]
        exact hversion

/-- A write that fails leaves no trace, unless it is the notification that was not taken. -/
theorem Wrote.untouched {e : ServiceError} (h : Wrote t (.error e)) (he : ∀ p, e ≠ .publish p)
    (ha : before.Answers t after) : Untouched before after t := by
  cases h with
  | refused ht _ => exact ⟨ha.eq_of_quiet ht, ht.filterMap_offered?⟩
  | unannounced ht c expected version p => exact absurd rfl (he p)

theorem Wrote.exists_storedOnce {p : PublishError} (h : Wrote t (.error (.publish p)))
    (ha : before.Answers t after) : ∃ r, StoredOnce before after t r := by
  cases h with
  | refused ht he => exact absurd rfl (he p)
  | unannounced ht c expected version p => exact ⟨_, (storedOnce_of_answers ht ha).1⟩

/-- Whatever goes wrong with the calls on the store and the outlet: a call that fails leaves no trace,
unless it stored one version and could not announce it, or its facts earn no points.  A review saves at
most once, and if it succeeds, it stored the version after the loaded one and announced just that. -/
theorem atomic_run (w : FaultyStore) (provider : OrganizationProvider) (attempts : Nat)
    (facts : PublicationFacts) (id : CandidateId) (request : ApprovalRequest) (time : Instant) :
    let evaluation := (evaluate provider attempts facts).run FaultyStore.backend w
    let evaluated := (evaluate provider attempts facts).exchanges FaultyStore.backend w
    let review := (updateApproval id request time).run FaultyStore.backend w
    let reviewed := (updateApproval id request time).exchanges FaultyStore.backend w
    (∀ e, evaluation.1 = .error e → (∀ p, e ≠ .publish p) → (∀ reason, e ≠ .notApplicable reason) →
      Untouched w.store evaluation.2.store evaluated) ∧
    (∀ p, evaluation.1 = .error (.publish p) →
      ∃ r, StoredOnce w.store evaluation.2.store evaluated r) ∧
    (∀ e, review.1 = .error e → (∀ p, e ≠ .publish p) →
      Untouched w.store review.2.store reviewed) ∧
    (∀ p, review.1 = .error (.publish p) →
      ∃ r, StoredOnce w.store review.2.store reviewed r) ∧
    reviewed.countP isSave ≤ 1 ∧
    ∀ r, review.1 = .ok r → ∃ current, w.store.load id = some current ∧
      r.version = current.version + 1 ∧ StoredOnce w.store review.2.store reviewed r ∧
      reviewed.filterMap offered? = [r] ∧ reviewed.filterMap taken? = [r] := by
  intro evaluation evaluated review reviewed
  have hevaluated : w.store.Answers evaluated evaluation.2.store := w.answers_run _
  have hreviewed : w.store.Answers reviewed review.2.store := w.answers_run _
  have hpath : Session.Path _ evaluated evaluation.1 := path_run _ _ w
  have hreview : Reviewed id request time reviewed review.1 := path_updateApproval (path_run _ _ w)
  refine ⟨?_, ?_, ?_, ?_, hreview.countP_isSave_le, ?_⟩
  · intro e he hp hreason
    rw [he] at hpath
    exact (path_evaluate hpath hreason).untouched hp hevaluated
  · intro p he
    rw [he] at hpath
    exact (path_evaluate hpath nofun).exists_storedOnce hevaluated
  · intro e he hp
    rw [he] at hreview
    exact hreview.wrote.untouched hp hreviewed
  · intro p he
    rw [he] at hreview
    exact hreview.wrote.exists_storedOnce hreviewed
  · intro r hr
    rw [hr] at hreview
    generalize reviewed = t at hreview hreviewed
    cases hreview with
    | @announced current next happly version =>
      have hquiet : Quiet [.load id (.ok (some current))] := quiet_cons rfl rfl quiet_nil
      obtain ⟨hstored, hexpected⟩ := storedOnce_of_answers hquiet hreviewed
      refine ⟨current, ?_, ?_, hstored, rfl, rfl⟩
      · generalize hcurrent : some current = answer at hreviewed
        cases hreviewed with
        | load hrest => rfl
      · have hversion := hstored.version
        rw [hexpected] at hversion
        exact hversion

-- an evaluation meets a conflict, stores its version the second time, and nobody hears of it
example :
    let facts : PublicationFacts :=
      ⟨⟨"p"⟩, .academicArticle, ⟨"j", .journal, .levelOne⟩, [⟨.verified "x", [⟨"a"⟩]⟩], by decide⟩
    let w : FaultyStore :=
      ⟨.empty, [], [some (.concurrentModification ⟨"p"⟩ none none)], [some ⟨"down"⟩]⟩
    let t := (evaluate (fun id => .ok [.blank id]) 3 facts).exchanges FaultyStore.backend w
    t.map isSave = [false, true, false, true, false] ∧
      (t.filterMap written?).map StoredCandidate.version = [1] ∧ (t.filterMap taken?).isEmpty := by
  decide +kernel

end PublicationIndicator.Service
