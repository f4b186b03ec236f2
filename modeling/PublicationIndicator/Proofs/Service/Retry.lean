import Mathlib.Logic.Function.Iterate
import PublicationIndicator.Proofs.Service.Reevaluation
import PublicationIndicator.Service.Shared

/-!
# PublicationIndicator.Proofs.Service.Retry — writing until it works

A write goes in rounds of a load and a save.  A round whose save meets another version leaves no trace,
and the next one starts afresh from what is stored by then; so what an evaluation comes to after some
lost rounds is what it would have come to if it had been started then, with nobody else around
(`evaluate_retries`).  `path_writeFrom_rounds` says of any answers how often there is a round, and
`writeFrom_round` what one round does on a store that others write to.
-/

namespace PublicationIndicator

namespace Service

open Session Exchange

/-! ### Whatever the answers are -/

variable {id : CandidateId} {propose : Option Candidate → Option Candidate} {attempts left : Nat}
  {t : List Exchange} {r : Except ServiceError (Option (StoredCandidate × Bool))}

/-- A round that is not lost is the last one. -/
theorem countP_of_round (h : Round id propose attempts left t r) :
    (t.countP isLoad = 1 ∧ t.countP isSave ≤ 1 ∧ t.countP isConflict = 0) ∨
      ∃ current c id' expected actual u,
        t = .load id (.ok current) :: .save c (current.map StoredCandidate.version)
          (.error (.concurrentModification id' expected actual)) :: u ∧
        (writeFrom id propose attempts left).Path u r := by
  cases h with
  | unread e => exact .inl ⟨rfl, Nat.zero_le _, rfl⟩
  | nothing current hnothing => exact .inl ⟨rfl, Nat.zero_le _, rfl⟩
  | saved current c version hc h =>
    left
    rcases path_announce h with ⟨rfl, rfl⟩ | ⟨p, rfl, rfl⟩
    · exact ⟨rfl, Nat.le_refl _, rfl⟩
    · exact ⟨rfl, Nat.le_refl _, rfl⟩
  | lost current c id' expected actual h => exact .inr ⟨current, c, id', expected, actual, _, rfl, h⟩
  | unsaved current c e he =>
    left
    cases e with
    | concurrentModification id' expected actual => exact absurd rfl (he id' expected actual)
    | notFound => exact ⟨rfl, Nat.le_refl _, rfl⟩
    | unavailable reason => exact ⟨rfl, Nat.le_refl _, rfl⟩

/-- There are no more rounds than allowed, and if all of them are lost, the write gives up and leaves no
trace. -/
theorem path_writeFrom_rounds (h : (writeFrom id propose attempts left).Path t r) :
    t.countP isLoad ≤ left ∧ t.countP isSave ≤ left ∧
      (t.countP isConflict = left → r = .error (.retriesExhausted id attempts) ∧ Quiet t) := by
  induction left generalizing t with
  | zero =>
    obtain ⟨rfl, rfl⟩ := h
    exact ⟨Nat.le_refl _, Nat.le_refl _, fun _ => ⟨rfl, quiet_nil⟩⟩
  | succ left ih =>
    rcases countP_of_round (round_of_path h) with
      ⟨hload, hsave, hconflict⟩ | ⟨current, c, id', expected, actual, u, rfl, hrest⟩
    · refine ⟨by omega, by omega, fun hall => ?_⟩
      rw [hconflict] at hall
      cases hall
    · obtain ⟨hload, hsave, hall⟩ := ih hrest
      simp only [List.countP_cons, isLoad, isSave, isConflict, Bool.false_eq_true, if_true, if_false,
        Nat.add_zero, Nat.add_le_add_iff_right, Nat.add_right_cancel_iff]
      refine ⟨hload, hsave, fun hlost => ?_⟩
      obtain ⟨hr, hquiet⟩ := hall hlost
      exact ⟨hr, quiet_cons rfl rfl (quiet_cons rfl rfl hquiet)⟩

end Service

/-! ### A store that others write to -/

/-- The store with `r` kept in place of what it keeps under that name. -/
def CandidateStore.keep (s : CandidateStore) (r : StoredCandidate) : CandidateStore :=
  ⟨s.records.insert r.candidate.id r⟩

/-- A write is refused only for the version that it expects. -/
theorem CandidateStore.eq_concurrentModification_of_save {s : CandidateStore} {c : Candidate}
    {expected : Option Nat} {e : StoreError} (h : s.save c expected = .error e) :
    e = .concurrentModification c.id expected (s.version? c.id) := by
  unfold save at h
  dsimp only at h
  split at h
  · cases h
  · exact (Except.error.inj h).symm

namespace SharedStore

variable {s : SharedStore} {c : Candidate} {expected : Option Nat}

theorem save_of_ok {version : Nat} {store : CandidateStore}
    (h : s.giveWay.store.save c expected = .ok (version, store)) :
    save c expected s = (.ok version, ⟨s.giveWay.store.keep ⟨c, version⟩, s.giveWay.others⟩) := by
  obtain ⟨-, -, rfl⟩ := CandidateStore.save_eq_ok_iff.1 h
  simp only [save, h]
  rfl

theorem save_of_error {e : StoreError} (h : s.giveWay.store.save c expected = .error e) :
    save c expected s =
      (.error (.concurrentModification c.id expected (s.giveWay.store.version? c.id)), s.giveWay) := by
  simp only [save, h, CandidateStore.eq_concurrentModification_of_save h]

/-- Where nobody else writes, a save is carried out that expects what was loaded. -/
theorem save_alone (store : CandidateStore) (c : Candidate) :
    let expected := (store.load c.id).map StoredCandidate.version
    let version := expected.elim 1 (· + 1)
    save c expected ⟨store, []⟩ = (.ok version, ⟨store.keep ⟨c, version⟩, []⟩) :=
  save_of_ok (s := ⟨store, []⟩) (store.save_of_load c)

theorem filed_land {store : CandidateStore} (hs : store.Filed) (save : Candidate × Option Nat) :
    (land store save).Filed := by
  unfold land
  split
  · rename_i hsave
    exact hs.save hsave
  · exact hs

/-- Whatever the others save is kept under its own name. -/
theorem filed_giveWay (hs : s.store.Filed) : s.giveWay.store.Filed := by
  change ((s.others.headD []).foldl land s.store).Filed
  generalize s.others.headD [] = saves
  generalize s.store = store at hs
  induction saves generalizing store with
  | nil => exact hs
  | cons save rest ih => exact ih _ (filed_land hs save)

end SharedStore

/-! ### Among others -/

namespace Service

open Session Exchange SharedStore

/-- Rounds in which these contents were loaded under the name, and every save met another version than
the one loaded with them. -/
inductive Lost (id : CandidateId) : List (Option StoredCandidate) → List Exchange → Prop where
  | nil : Lost id [] []
  | cons {currents t} (current : Option StoredCandidate) (c : Candidate) (id' : CandidateId)
      (expected actual : Option Nat) (h : Lost id currents t) :
      Lost id (current :: currents) (.load id (.ok current) ::
        .save c (current.map StoredCandidate.version)
          (.error (.concurrentModification id' expected actual)) :: t)

theorem Lost.countP_isConflict {id : CandidateId} {currents : List (Option StoredCandidate)}
    {t : List Exchange} (h : Lost id currents t) : t.countP isConflict = currents.length := by
  induction h with
  | nil => rfl
  | cons current c id' expected actual h ih => simpa [List.countP_cons, isConflict] using ih

/-- The session loses `j` rounds on the shared store, and then does what the other session does on what
the others have left by then, where nobody else writes.  What it writes comes on top of what the others
have saved. -/
structure Resumed {α : Type} (outlet : StoredCandidate → Except PublishError Unit) (id : CandidateId)
    (m other : Session α) (j : Nat) (s : SharedStore) : Prop where
  exchanges : ∃ lost, Lost id ((List.range j).map fun i => (giveWay^[i] s).store.load id) lost ∧
    m.exchanges (backend outlet) s =
      lost ++ other.exchanges (backend outlet) ⟨(giveWay^[j] s).store, []⟩
  unopposed : (other.exchanges (backend outlet) ⟨(giveWay^[j] s).store, []⟩).countP isConflict = 0
  result : (m.run (backend outlet) s).1 = (other.run (backend outlet) ⟨(giveWay^[j] s).store, []⟩).1
  store : (m.run (backend outlet) s).2.store =
    ((m.exchanges (backend outlet) s).filterMap written?).foldl CandidateStore.keep
      (giveWay^[(m.exchanges (backend outlet) s).countP isSave] s).store

section Resumed

variable {α β : Type} {outlet : StoredCandidate → Except PublishError Unit} {id : CandidateId}
  {m m' other : Session α} {j : Nat} {s : SharedStore}

/-- As many saves meet another version as there are rounds lost. -/
theorem Resumed.countP_isConflict (h : Resumed outlet id m other j s) :
    (m.exchanges (backend outlet) s).countP isConflict = j := by
  obtain ⟨lost, hlost, hexchanges⟩ := h.exchanges
  rw [hexchanges, List.countP_append, hlost.countP_isConflict, h.unopposed]
  simp

/-- The same of both sessions with their results reported. -/
theorem Resumed.bind (h : Resumed outlet id m other j s) (report : α → β) :
    Resumed outlet id (m >>= fun a => .done (report a)) (other >>= fun a => .done (report a)) j s := by
  have hexchanges (n : Session α) (w : SharedStore) :
      (n >>= fun a => .done (report a)).exchanges (backend outlet) w =
        n.exchanges (backend outlet) w := by
    rw [exchanges_bind]
    exact List.append_nil _
  have hrun (n : Session α) (w : SharedStore) :
      (n >>= fun a => .done (report a)).run (backend outlet) w =
        (report (n.run (backend outlet) w).1, (n.run (backend outlet) w).2) :=
    run_bind _ _ _ _
  constructor
  · simpa only [hexchanges] using h.exchanges
  · simpa only [hexchanges] using h.unopposed
  · rw [hrun, hrun, h.result]
  · simpa only [hexchanges, hrun] using h.store

/-- A round that is lost in front of a session that is resumed. -/
theorem Resumed.lost (h : Resumed outlet id m other j s.giveWay) {c : Candidate} {id' : CandidateId}
    {expected actual : Option Nat}
    (hexchanges : m'.exchanges (backend outlet) s = .load id (.ok (s.store.load id)) ::
      .save c ((s.store.load id).map StoredCandidate.version)
        (.error (.concurrentModification id' expected actual)) ::
      m.exchanges (backend outlet) s.giveWay)
    (hrun : m'.run (backend outlet) s = m.run (backend outlet) s.giveWay) :
    Resumed outlet id m' other (j + 1) s := by
  obtain ⟨lost, hlost, hm⟩ := h.exchanges
  refine ⟨⟨.load id (.ok (s.store.load id)) :: .save c ((s.store.load id).map StoredCandidate.version)
    (.error (.concurrentModification id' expected actual)) :: lost, ?_, ?_⟩, h.unopposed, ?_, ?_⟩
  · rw [List.range_succ_eq_map, List.map_cons, List.map_map]
    exact .cons _ _ _ _ _ hlost
  · rw [hexchanges, hm]
    rfl
  · rw [hrun]
    exact h.result
  · rw [hrun, h.store, hexchanges]
    simp [List.countP_cons, List.filterMap_cons, isSave, written?, Function.iterate_succ_apply]

end Resumed

/-- What is proposed for a candidate bears its name. -/
def KeepsName (id : CandidateId) (propose : Option Candidate → Option Candidate) : Prop :=
  ∀ current : Option StoredCandidate, (∀ r, current = some r → r.candidate.id = id) →
    ∀ c, propose (current.map StoredCandidate.candidate) = some c → c.id = id

section Round

variable {id : CandidateId} {propose : Option Candidate → Option Candidate}
  (outlet : StoredCandidate → Except PublishError Unit) (attempts left : Nat) {s : SharedStore}

/-- What an announcement comes to does not depend on the store, which it leaves as it is. -/
theorem announce_shared {α : Type} (u : StoredCandidate) (result : α) (s : SharedStore) :
    (announce u result).exchanges (backend outlet) s = [.publish u (outlet u)] ∧
      (announce u result).run (backend outlet) s =
        (((outlet u).map fun _ => result).mapError .publish, s) := by
  cases h : outlet u with
  | error e => simp [announce, exchanges, run, backend, h, Except.map, Except.mapError]
  | ok _ => simp [announce, exchanges, run, backend, h, Except.map, Except.mapError]

/-- One round: it goes as if nobody else were there, or it is lost, and what follows is a write on what
the others have left that may be tried once less. -/
theorem writeFrom_round (hs : s.store.Filed) (hpropose : KeepsName id propose) (again : Nat) :
    Resumed outlet id (writeFrom id propose attempts (left + 1))
      (writeFrom id propose attempts (again + 1)) 0 s ∨
    ∃ c id' expected actual, (writeFrom id propose attempts (left + 1)).exchanges (backend outlet) s =
        .load id (.ok (s.store.load id)) ::
          .save c ((s.store.load id).map StoredCandidate.version)
            (.error (.concurrentModification id' expected actual)) ::
          (writeFrom id propose attempts left).exchanges (backend outlet) s.giveWay ∧
      (writeFrom id propose attempts (left + 1)).run (backend outlet) s =
        (writeFrom id propose attempts left).run (backend outlet) s.giveWay := by
  cases hnothing : nothingNew propose (s.store.load id) with
  | true =>
    left
    obtain ⟨hrun, hexchanges⟩ :=
      writeFrom_of_nothingNew (b := backend outlet) (w := s) rfl hnothing attempts left
    obtain ⟨hresult, halone⟩ :=
      writeFrom_of_nothingNew (b := backend outlet) (w := ⟨s.store, []⟩) rfl hnothing attempts again
    refine ⟨⟨[], .nil, hexchanges.trans halone.symm⟩, congrArg (List.countP isConflict) halone, ?_, ?_⟩
    · rw [hrun]
      exact (congrArg Prod.fst hresult).symm
    · rw [hexchanges, hrun]
      rfl
  | false =>
    obtain ⟨c, hc, hnew⟩ : ∃ c, propose ((s.store.load id).map StoredCandidate.candidate) = some c ∧
        isStored (s.store.load id) c = false := by
      simpa [nothingNew, Option.all_eq_false] using hnothing
    cases hsave : s.giveWay.store.save c ((s.store.load id).map StoredCandidate.version) with
    | error e =>
      right
      obtain ⟨hrun, hexchanges⟩ := writeFrom_of_new (b := backend outlet) (w := s) rfl hc hnew
        (save_of_error hsave) attempts left
      exact ⟨c, _, _, _, hexchanges, hrun⟩
    | ok saved =>
      left
      obtain ⟨version, store⟩ := saved
      -- the version expected is the one loaded, so that the save is carried out alone as well
      obtain ⟨-, rfl, -⟩ := CandidateStore.save_eq_ok_iff.1 hsave
      obtain rfl : c.id = id := hpropose _ (fun r hr => hs _ r hr) c hc
      obtain ⟨hrun, hexchanges⟩ := writeFrom_of_new (b := backend outlet) (w := s) rfl hc hnew
        (save_of_ok hsave) attempts left
      obtain ⟨hresult, halone⟩ := writeFrom_of_new (b := backend outlet) (w := ⟨s.store, []⟩) rfl hc hnew
        (save_alone s.store c) attempts again
      simp only [afterSave, announce_shared] at hexchanges hrun halone hresult
      refine ⟨⟨[], .nil, hexchanges.trans halone.symm⟩, congrArg (List.countP isConflict) halone,
        ?_, ?_⟩
      · rw [hrun]
        exact (congrArg Prod.fst hresult).symm
      · rw [hexchanges, hrun]
        rfl

/-- All rounds together: some are lost, and then the write goes as if nobody else were there, or it may
not be tried any more. -/
theorem writeFrom_resumed (hs : s.store.Filed) (hpropose : KeepsName id propose) (again : Nat) :
    ∃ j ≤ left, Resumed outlet id (writeFrom id propose attempts left)
      (if j < left then writeFrom id propose attempts (again + 1)
        else .done (.error (.retriesExhausted id attempts))) j s := by
  induction left generalizing s with
  | zero => exact ⟨0, Nat.le_refl 0, ⟨[], .nil, rfl⟩, rfl, rfl, rfl⟩
  | succ left ih =>
    rcases writeFrom_round outlet attempts left hs hpropose again with
      hcalm | ⟨c, id', expected, actual, hexchanges, hrun⟩
    · refine ⟨0, Nat.zero_le _, ?_⟩
      rwa [if_pos (Nat.succ_pos left)]
    · obtain ⟨j, hj, hrest⟩ := ih (filed_giveWay hs)
      refine ⟨j + 1, Nat.succ_le_succ hj, ?_⟩
      simp only [Nat.add_lt_add_iff_right]
      exact hrest.lost hexchanges hrun

theorem write_resumed (hs : s.store.Filed) (hpropose : KeepsName id propose) :
    ∃ j ≤ max attempts 1, Resumed outlet id (write attempts id propose)
      (if j < max attempts 1 then write attempts id propose
        else .done (.error (.retriesExhausted id (max attempts 1)))) j s := by
  have hmost : max attempts 1 = max attempts 1 - 1 + 1 := by omega
  have hresumed := writeFrom_resumed outlet (max attempts 1) (max attempts 1) hs hpropose
    (max attempts 1 - 1)
  rwa [← hmost] at hresumed

end Round

/-! ### Evaluations among others -/

/-- The report of an evaluation that found points, by what its write came to. -/
def scoredReport (e : PointEvaluation) :
    Except ServiceError (Option (StoredCandidate × Bool)) → Except ServiceError EvaluationReport
  | .ok (some (stored, changed)) => .ok ⟨stored, e.excluded, changed⟩
  | .ok none => .error (.store .notFound)
  | .error err => .error err

/-- The report of an evaluation whose facts earn no points, by what its write came to. -/
def refusedReport (reason : InvalidFacts) :
    Except ServiceError (Option (StoredCandidate × Bool)) → Except ServiceError EvaluationReport
  | .ok _ => .error (.notApplicable reason)
  | .error err => .error err

variable (provider : OrganizationProvider) (attempts : Nat) (facts : PublicationFacts)

/-- A mark keeps the name. -/
theorem keepsName_proposeNotApplicable (id : CandidateId) : KeepsName id proposeNotApplicable := by
  intro current hid c hc
  cases current with
  | none => cases hc
  | some r =>
    change (if r.candidate.applicable then some r.candidate.markNotApplicable else none) = some c at hc
    split at hc
    · cases hc
      exact hid r rfl
    · cases hc

/-- An evaluation meets a defect, or it is a write whose failure is its own. -/
theorem evaluate_cases :
    (∃ d, evaluate provider attempts facts = .done (.error (.calculation d))) ∨
    ∃ propose, ∃ report : Except ServiceError (Option (StoredCandidate × Bool)) →
        Except ServiceError EvaluationReport,
      KeepsName facts.candidate propose ∧ (∀ e, report (.error e) = .error e) ∧
      evaluate provider attempts facts =
        write attempts facts.candidate propose >>= fun a => .done (report a) := by
  cases he : scoreThrough provider facts with
  | error err =>
    cases err with
    | invalidFacts reason =>
      right
      refine ⟨proposeNotApplicable, refusedReport reason, keepsName_proposeNotApplicable _,
        fun _ => rfl, ?_⟩
      rw [evaluate, he]
      refine congrArg (write attempts facts.candidate proposeNotApplicable >>= ·) (funext fun a => ?_)
      cases a <;> rfl
    | defect d =>
      left
      refine ⟨d, ?_⟩
      rw [evaluate, he]
      rfl
  | ok e =>
    right
    refine ⟨proposePoints facts.publication e.calculation, scoredReport e,
      fun current hid c hc => id_of_proposed hid hc, fun _ => rfl, ?_⟩
    rw [evaluate, he]
    refine congrArg (write attempts facts.candidate _ >>= ·) (funext fun a => ?_)
    rcases a with err | _ | ⟨stored, changed⟩ <;> rfl

variable {provider attempts facts} {t : List Exchange} {r : Except ServiceError EvaluationReport}

/-- Whatever the answers are, an evaluation does not try more often than it may, and if it meets a
conflict every time it gives up without a trace. -/
theorem path_evaluate_rounds (h : (evaluate provider attempts facts).Path t r) :
    let most := max attempts 1
    t.countP isLoad ≤ most ∧ t.countP isSave ≤ most ∧
      (t.countP isConflict = most →
        r = .error (.retriesExhausted facts.candidate most) ∧ Quiet t) := by
  intro most
  rcases evaluate_cases provider attempts facts with ⟨d, hd⟩ | ⟨propose, report, -, hreport, hwrite⟩
  · rw [hd] at h
    obtain ⟨rfl, rfl⟩ := h
    have hmost : 0 < most := by omega
    exact ⟨Nat.zero_le _, Nat.zero_le _, fun hnone => absurd hnone (Nat.ne_of_lt hmost)⟩
  · rw [hwrite] at h
    obtain ⟨a, t, rest, rfl, hpath, rfl, rfl⟩ := exists_path_of_bind h
    obtain ⟨hload, hsave, hexhausted⟩ := path_writeFrom_rounds hpath
    rw [List.append_nil]
    refine ⟨hload, hsave, fun hall => ?_⟩
    obtain ⟨rfl, hquiet⟩ := hexhausted hall
    exact ⟨hreport _, hquiet⟩

/-- An evaluation tries at most as often as it may, but at least once.  On a store that others write to,
and that keeps each candidate under its own name, it loses a round for every save that meets another
version; after fewer of them than it may have, it does from there on what it does alone, on the store as
the others have left it by then.  Otherwise it gives up, whether it was to store points or a mark,
without a trace of its own. -/
theorem evaluate_retries (provider : OrganizationProvider) (attempts : Nat) (facts : PublicationFacts) :
    let most := max attempts 1
    let call := evaluate provider attempts facts
    (∀ t r, call.Path t r → t.countP isLoad ≤ most ∧ t.countP isSave ≤ most ∧
      (t.countP isConflict = most →
        r = .error (.retriesExhausted facts.candidate most) ∧ Quiet t)) ∧
    ∀ outlet (s : SharedStore), s.store.Filed →
      let conflicts := (call.exchanges (backend outlet) s).countP isConflict
      conflicts ≤ most ∧ Resumed outlet facts.candidate call
        (if conflicts < most then call else .done (.error (.retriesExhausted facts.candidate most)))
        conflicts s := by
  intro most call
  refine ⟨fun t r => path_evaluate_rounds, fun outlet s hs => ?_⟩
  intro conflicts
  suffices h : ∃ j ≤ most, Resumed outlet facts.candidate call
      (if j < most then call else .done (.error (.retriesExhausted facts.candidate most))) j s by
    obtain ⟨j, hj, hresumed⟩ := h
    have hconflicts : conflicts = j := hresumed.countP_isConflict
    rw [hconflicts]
    exact ⟨hj, hresumed⟩
  rcases evaluate_cases provider attempts facts with
    ⟨d, hd⟩ | ⟨propose, report, hpropose, hreport, hcall⟩
  · refine ⟨0, Nat.zero_le _, ?_⟩
    rw [if_pos (by omega), show call = _ from hd]
    exact ⟨⟨[], .nil, rfl⟩, rfl, rfl, rfl⟩
  · obtain ⟨j, hj, hresumed⟩ := write_resumed outlet attempts hs hpropose
    refine ⟨j, hj, ?_⟩
    rw [show call = _ from hcall]
    have hreported := hresumed.bind report
    by_cases hlt : j < most
    · rw [if_pos hlt] at hreported ⊢
      exact hreported
    · rw [if_neg hlt] at hreported ⊢
      rw [← hreport]
      exact hreported

/-- While an evaluation is under way, somebody replaces its candidate, and somebody else stores another
one: it writes in the second round.  Where there is none, a mark is given up, and it is not said that the
facts earn no points. -/
theorem evaluate_retries_overtaken :
    let provider : OrganizationProvider := fun id => .ok [.blank id]
    let facts (value : ScientificValue) : PublicationFacts :=
      ⟨⟨"p"⟩, .academicArticle, ⟨"j", .journal, value⟩, [⟨.verified "x", [⟨"a"⟩]⟩], by decide⟩
    let other (p : String) : Candidate := .create ⟨p⟩ ⟨.academicArticle, ⟨"j", .journal, .levelOne⟩, true,
      .ofTenths 13, .one, 2, .one, [⟨⟨"b"⟩, .one, []⟩]⟩
    let s : SharedStore := ⟨⟨SortedMap.empty.insert ⟨"p"⟩ ⟨other "p", 1⟩⟩,
      [[(other "p", some 1)], [(other "q", none)]]⟩
    let outlet : StoredCandidate → Except PublishError Unit := fun _ => .ok ()
    let score := evaluate provider 2 (facts .levelOne)
    let mark := evaluate provider 1 (facts .unassigned)
    s.store.Filed ∧ Resumed outlet ⟨"p"⟩ score score 1 s ∧
      (score.run (backend outlet) s).1.toOption.map (fun report => report.stored.version) = some 3 ∧
      (∃ reason, scoreThrough provider (facts .unassigned) = .error (.invalidFacts reason)) ∧
      (mark.run (backend outlet) s).1 = .error (.retriesExhausted ⟨"p"⟩ 1) ∧
      Quiet (mark.exchanges (backend outlet) s) := by
  intro provider facts other s outlet score mark
  have hs : s.store.Filed := by
    have hempty : CandidateStore.empty.Filed := by
      intro id r hr
      cases hr
    have hsave : CandidateStore.empty.save (other "p") none = .ok (1, s.store) :=
      CandidateStore.save_eq_ok_iff.2 ⟨rfl, rfl, rfl⟩
    exact hempty.save hsave
  have hscore : (score.exchanges (backend outlet) s).countP isConflict = 1 := by decide +kernel
  have hmark : (mark.exchanges (backend outlet) s).countP isConflict = 1 := by decide +kernel
  have hversion : (score.run (backend outlet) s).1.toOption.map
      (fun report => report.stored.version) = some 3 := by decide +kernel
  have hrefused : ∃ reason, scoreThrough provider (facts .unassigned) = .error (.invalidFacts reason) :=
    ⟨_, rfl⟩
  have hname (value : ScientificValue) : (facts value).candidate = ⟨"p"⟩ := rfl
  -- from here on it does not matter what is evaluated and what the others save
  clear_value provider facts s
  obtain ⟨-, hresumed⟩ := (evaluate_retries provider 2 (facts .levelOne)).2 outlet s hs
  obtain ⟨-, -, hexhausted⟩ :=
    (evaluate_retries provider 1 (facts .unassigned)).1 _ _ (path_run (backend outlet) mark s)
  obtain ⟨hresult, hquiet⟩ := hexhausted hmark
  rw [hname] at hresumed hresult
  rw [hscore] at hresumed
  exact ⟨hs, hresumed, hversion, hrefused, hresult, hquiet⟩

end Service

end PublicationIndicator
