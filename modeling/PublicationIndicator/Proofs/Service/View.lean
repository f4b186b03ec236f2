import PublicationIndicator.Proofs.Candidate.View
import PublicationIndicator.Proofs.Service.Decision

/-!
# PublicationIndicator.Proofs.Service.View — what clients store is shown in full

Points come to a candidate by a calculation only, whichever clients' calls store it.  So each version of
a candidate is presentable (`Succession.presentable`), and readers are shown all of it
(`System.view_play`).
-/

namespace PublicationIndicator.Service

variable {ι : Type}

/-- Each version of a candidate is presentable. -/
theorem Succession.presentable {ws : List (Write ι)} (h : Succession ws) :
    ∀ w ∈ ws, w.stored.candidate.Presentable := by
  refine h.holds (fun call c hc => ?_) fun call event c c' hevent hc happly => ?_
  · obtain ⟨_, facts, e, he, rfl⟩ := Call.exists_of_creation? hc
    exact Candidate.presentable_create facts.publication (inOrder_of_scoreThrough he)
  · refine Candidate.presentable_apply hc (fun points hpoints => ?_) happly
    subst hpoints
    obtain ⟨_, _, e, he, rfl⟩ := Call.exists_of_pointsCalculated hevent
    exact inOrder_of_scoreThrough he

/-- However clients' calls are interleaved and fail, each candidate that is written is shown in full, and
so is each candidate that readers load. -/
theorem System.view_play [DecidableEq ι] (turns : List (Turn ι)) :
    (∀ w ∈ ((initial : System ι).play turns).writes, w.stored.ShownInFull) ∧
    ∀ id stored, ((initial : System ι).play turns).store.load id = some stored →
      stored.candidate.id = id ∧ stored.ShownInFull := by
  have hlawful := lawful_play (lawful_initial (ι := ι)) turns
  refine ⟨fun w hw => ?_, fun id stored hload => ?_⟩
  · have hmem := mem_history.2 ⟨hw, rfl⟩
    exact StoredCandidate.shownInFull ((hlawful.succession w.stored.candidate.id).presentable w hmem)
  · rw [hlawful.load_eq, Option.map_eq_some_iff] at hload
    obtain ⟨w, hw, rfl⟩ := hload
    have hmem := List.mem_of_getLast? hw
    exact ⟨(mem_history.1 hmem).2,
      StoredCandidate.shownInFull ((hlawful.succession id).presentable w hmem)⟩

-- after the loss of an institution and a decision readers are shown the one that is left
example :
    let provider : OrganizationProvider := fun id => .ok [.blank id]
    let evaluation (as : List OrganizationId) (few : as.length < 3) : Call := .evaluate provider 3
      ⟨⟨"p"⟩, .academicArticle, ⟨"j", .journal, .levelOne⟩, [⟨.verified "x", as⟩], by simp; omega⟩
    let decision : Call := .updateApproval ⟨"p"⟩ ⟨⟨"a"⟩, .decide .rejected (some "no"), ⟨"c"⟩, none⟩
      ⟨⟨2026, 1, 1, by decide, by decide⟩, 0, 0, 0⟩
    let moves (call : Call) : List (Turn Unit) :=
      .move (.begin () call) :: List.replicate 3 (.move (.proceed () (.ok ())))
    let turns := moves (evaluation [⟨"b"⟩, ⟨"a"⟩] (by decide)) ++ moves decision ++ moves (evaluation [⟨"a"⟩] (by decide))
    ((System.initial.play turns).writes.map fun w =>
        (w.stored.view.globalStatus, w.stored.view.institutions.map fun v => (v.institution, v.status))) =
      [(.pending, [(⟨"a"⟩, .new), (⟨"b"⟩, .new)]), (.pending, [(⟨"a"⟩, .rejected), (⟨"b"⟩, .new)]),
        (.rejected, [(⟨"a"⟩, .rejected)])] := by
  decide +kernel

end PublicationIndicator.Service
