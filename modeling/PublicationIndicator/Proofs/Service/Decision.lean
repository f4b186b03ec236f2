import PublicationIndicator.Proofs.Candidate.Decision
import PublicationIndicator.Proofs.Service.History

/-!
# PublicationIndicator.Proofs.Service.Decision — no recorded decision is lost or rewritten

Any clients call the service in any order, and the store may fail them at any call.  What they write is
still a succession (`lawful_play`), so what events do to one candidate says what happens along the
versions of a candidate: once a decision of an institution is written, every later version records it
until the institution is released, by a reopening or by points among which it earns none.
-/

namespace PublicationIndicator.Service

variable {ι : Type}

/-! ### A store that fails -/

namespace System

variable [DecidableEq ι] {s : System ι} {i : ι} {r : Running}

/-- A call on the store that fails writes nothing, and its client loads anew before it writes. -/
theorem lawful_fail (e : StoreError) (h : s.Lawful) (hr : s.running i = some r) :
    (s.fail i r e).Lawful := by
  obtain ⟨seen, hcareful, -⟩ := h.careful i r hr
  unfold fail
  cases hrest : r.rest with
  | done a => exact h
  | publish u next => exact h
  | load id next =>
    rw [hrest] at hcareful
    obtain ⟨-, -, herror⟩ := hcareful
    exact lawful_goOn h (herror e) fun current hc => by cases hc
  | save c expected next =>
    rw [hrest] at hcareful
    obtain ⟨-, hnext⟩ := hcareful
    exact lawful_goOn h (hnext (.error e)) fun current hc => by cases hc

theorem lawful_turn (h : s.Lawful) (t : Turn ι) : (s.turn t).Lawful := by
  cases t with
  | move m => exact lawful_step h m
  | fail client e =>
    rw [turn]
    split
    · rename_i r hr
      exact lawful_fail e h hr
    · exact h

theorem lawful_play (h : s.Lawful) (turns : List (Turn ι)) : (s.play turns).Lawful := by
  induction turns generalizing s with
  | nil => exact h
  | cons t rest ih => exact ih (lawful_turn h t)

end System

/-! ### Along the versions of a candidate -/

namespace Write

/-- Is the write a decision of the institution, recorded as `d`? -/
def Decides (w : Write ι) (i : OrganizationId) (d : Verdict) : Prop :=
  ∃ e, w.call.event? = some e ∧ e.Decides i d

/-- Does the write release the institution from its decision? -/
def Releases (w : Write ι) (i : OrganizationId) : Prop :=
  ∃ e, w.call.event? = some e ∧ e.Releases i

end Write

namespace Succession

variable {ws : List (Write ι)} {v w : Write ι} {m n : Nat} {i : OrganizationId} {d d' : Verdict}

/-- Each write but the first is made of the one before it by the event of its call. -/
theorem exists_prior (h : Succession ws) (hw : ws[n + 1]? = some w) :
    ∃ v e, ws[n]? = some v ∧ w.call.event? = some e ∧
      v.stored.candidate.apply e = .ok w.stored.candidate := by
  have hlt : n + 1 < ws.length := (List.getElem?_eq_some_iff.1 hw).1
  have hv : ws[n]? = some ws[n] := List.getElem?_eq_getElem (by omega)
  obtain ⟨e, he, happly⟩ := h.makes_next hv hw
  exact ⟨ws[n], e, hv, he, happly⟩

/-- No candidate is created by a decision. -/
theorem pos_of_decides (h : Succession ws) (hw : ws[n]? = some w) (hd : w.Decides i d) : 0 < n := by
  rcases Nat.eq_zero_or_pos n with rfl | hn
  · obtain ⟨e, he, hde⟩ := hd
    have hcreation := h.makes_first hw
    cases hcall : w.call with
    | updateApproval id request time =>
      rw [hcall] at hcreation
      cases hcreation
    | evaluate provider attempts facts =>
      rw [hcall, Call.event?] at he
      split at he
      · cases he
        cases hde
      · cases he
        cases hde
      · cases he
  · exact hn

/-- A write that decides records the decision, made of a version without one. -/
theorem exists_undecided (h : Succession ws) (hw : ws[n]? = some w) (hd : w.Decides i d) :
    w.stored.candidate.verdict? i = some d ∧
      ∃ v, ws[n - 1]? = some v ∧ ∀ u, v.stored.candidate.verdict? i = some u →
        ¬ u.status.isTerminal = true := by
  obtain ⟨k, rfl⟩ : ∃ k, n = k + 1 := ⟨n - 1, by have := h.pos_of_decides hw hd; omega⟩
  obtain ⟨v, e, hv, he, happly⟩ := h.exists_prior hw
  obtain ⟨e', he', hde⟩ := hd
  rw [he] at he'
  cases he'
  obtain ⟨hrecorded, hundecided⟩ := Candidate.verdict?_of_decides happly hde
  exact ⟨hrecorded, v, hv, hundecided⟩

/-- A decision stays recorded as long as no write releases the institution. -/
theorem verdict?_kept (h : Succession ws) (hv : ws[m]? = some v)
    (hrecorded : v.stored.candidate.verdict? i = some d) (ht : d.status.isTerminal = true)
    (hmn : m ≤ n) (hkept : ∀ k u, m < k → k ≤ n → ws[k]? = some u → ¬ u.Releases i)
    (hw : ws[n]? = some w) : w.stored.candidate.verdict? i = some d := by
  induction hmn generalizing w with
  | refl =>
    rw [hv] at hw
    cases hw
    exact hrecorded
  | @step n hmn ih =>
    have hmn : m ≤ n := hmn
    obtain ⟨u, e, hu, he, happly⟩ := h.exists_prior hw
    have hrecordedu := ih (fun k x hk hkn hx => hkept k x hk (by omega) hx) hu
    have hreleases : ¬ e.Releases i := fun hr =>
      hkept (n + 1) w (by omega) (Nat.le_refl _) hw ⟨e, he, hr⟩
    exact Candidate.verdict?_of_not_releases happly hreleases hrecordedu ht

theorem isTerminal_of_decides (hd : w.Decides i d) : d.status.isTerminal = true := by
  obtain ⟨e, -, hde⟩ := hd
  cases e with
  | pointsCalculated points => cases hde
  | notApplicable => cases hde
  | approval r time =>
    obtain ⟨-, decision, reason, -, rfl⟩ := hde
    exact decision.isTerminal_verdict _ _ _

/-- Between two decisions of an institution it is released. -/
theorem exists_releases (h : Succession ws) (hv : ws[m]? = some v) (hvd : v.Decides i d)
    (hw : ws[n]? = some w) (hwd : w.Decides i d') (hmn : m < n) :
    ∃ k u, m < k ∧ k < n ∧ ws[k]? = some u ∧ u.Releases i := by
  refine Classical.byContradiction fun hnone => ?_
  obtain ⟨-, u, hu, hundecided⟩ := h.exists_undecided hw hwd
  have hkept : ∀ k x, m < k → k ≤ n - 1 → ws[k]? = some x → ¬ x.Releases i := by
    intro k x hk hkn hx hr
    exact hnone ⟨k, x, hk, by omega, hx, hr⟩
  have hrecorded := (h.exists_undecided hv hvd).1
  have ht := isTerminal_of_decides hvd
  exact hundecided d (h.verdict?_kept hv hrecorded ht (by omega) hkept hu) ht

/-- In every version those institutions have an approval that have points. -/
theorem matched (h : Succession ws) (hw : ws[n]? = some w) : w.stored.candidate.Matched := by
  refine h.holds (fun call c hc => ?_) (fun _ _ _ _ _ hc happly => Candidate.matched_apply happly hc) w
    (List.mem_of_getElem? hw)
  obtain ⟨_, facts, e, -, rfl⟩ := Call.exists_of_creation? hc
  exact Candidate.matched_create facts.publication e.calculation

end Succession

/-- However clients' calls are interleaved and fail: a decision that is written is recorded in each later
version until the institution is released; between two decisions it is released; and an institution
that had no points, and so no approval, and has some now starts anew. -/
theorem System.decision_play [DecidableEq ι] (turns : List (Turn ι)) (id : CandidateId)
    (i : OrganizationId) :
    let s := (initial : System ι).play turns
    let ws := s.history id
    s.store.records.get? id = ws.getLast?.map Write.stored ∧
    (∀ (m n : Nat) (v w : Write ι) (d : Verdict), ws[m]? = some v → v.Decides i d → ws[n]? = some w → m ≤ n →
      (∀ (k : Nat) (u : Write ι), m < k → k ≤ n → ws[k]? = some u → ¬ u.Releases i) →
      w.stored.candidate.verdict? i = some d) ∧
    (∀ (m n : Nat) (v w : Write ι) (d d' : Verdict), ws[m]? = some v → v.Decides i d →
      ws[n]? = some w → w.Decides i d' → m < n →
      ∃ (k : Nat) (u : Write ι), m < k ∧ k < n ∧ ws[k]? = some u ∧ u.Releases i) ∧
    (∀ (n : Nat) (v w : Write ι), ws[n]? = some v → ws[n + 1]? = some w →
      i ∉ v.stored.candidate.points.institutionIds →
      v.stored.candidate.approvals.get? i = none ∧
        (i ∈ w.stored.candidate.points.institutionIds →
          ∃ p ∈ w.stored.candidate.points.institutions, p.institution = i ∧
            w.stored.candidate.approvals.get? i = some (.fresh i p.involvedOrganizations))) := by
  intro s ws
  have hlawful : s.Lawful := lawful_play lawful_initial turns
  have h : Succession ws := hlawful.succession id
  refine ⟨hlawful.kept id, ?_, ?_, ?_⟩
  · intro m n v w d hv hd hw hmn hkept
    have hrecorded := (h.exists_undecided hv hd).1
    exact h.verdict?_kept hv hrecorded (Succession.isTerminal_of_decides hd) hmn hkept hw
  · intro m n v w d d' hv hvd hw hwd hmn
    exact h.exists_releases hv hvd hw hwd hmn
  · intro n v w hv hw hi
    have hmatched := h.matched hv
    obtain ⟨e, -, happly⟩ := h.makes_next hv hw
    refine ⟨by simpa using mt (hmatched i).1 hi, fun hi' => ?_⟩
    exact Candidate.get?_of_regained happly hmatched hi hi'

-- a decision outlives a recalculation that met an outage and a conflict, but not the loss of all points
example :
    let provider : OrganizationProvider := fun id => .ok [.blank id]
    let evaluation (as : List OrganizationId) (few : as.length < 3) : Call := .evaluate provider 3
      ⟨⟨"p"⟩, .academicArticle, ⟨"j", .journal, .levelOne⟩, [⟨.verified "x", as⟩], by simp; omega⟩
    let decision : Call := .updateApproval ⟨"p"⟩ ⟨⟨"a"⟩, .decide .approved none, ⟨"c"⟩, none⟩
      ⟨⟨2026, 1, 1, by decide, by decide⟩, 0, 0, 0⟩
    let begin (call : Call) : Turn Unit := .move (.begin () call)
    let proceed (n : Nat) : List (Turn Unit) := List.replicate n (.move (.proceed () (.ok ())))
    let turns : List (Turn Unit) :=
      begin (evaluation [⟨"a"⟩] (by decide)) :: proceed 3 ++ begin decision :: proceed 3 ++
      begin (evaluation [⟨"b"⟩, ⟨"a"⟩] (by decide)) :: .fail () (.unavailable "down") ::
      begin (evaluation [⟨"b"⟩, ⟨"a"⟩] (by decide)) :: proceed 1 ++
      .fail () (.concurrentModification ⟨"p"⟩ (some 2) (some 3)) :: proceed 3 ++
      begin (evaluation [⟨"b"⟩] (by decide)) :: proceed 3 ++
      begin (evaluation [⟨"a"⟩] (by decide)) :: proceed 3
    ((System.initial.play turns).history ⟨"p"⟩).map
        (fun w => (w.stored.candidate.verdict? ⟨"a"⟩).map Verdict.status) =
      [some .new, some .approved, some .approved, none, some .new] := by
  decide +kernel

end PublicationIndicator.Service
