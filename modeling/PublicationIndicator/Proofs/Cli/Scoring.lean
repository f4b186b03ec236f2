import PublicationIndicator.Cli.Run
import PublicationIndicator.Proofs.Candidate.Decision
import PublicationIndicator.Proofs.Service.Alone

/-!
# PublicationIndicator.Proofs.Cli.Scoring — scoring and evaluating agree

A publication is scored without a store, or evaluated by the service, which keeps a candidate for it.
Whatever is kept already, both find points for the same facts, and then the candidate that is kept has
these points and the approvals that go with them; both refuse the same facts for the same reason
(`scoreFacts_agrees`).
-/

namespace PublicationIndicator

open Service

/-- A candidate that the points do not change has the approvals of just the institutions in them. -/
theorem Candidate.mem_keys_of_beq_recalculate {c : Candidate} {points : PointCalculation}
    (h : (c == c.recalculate points) = true) (i : OrganizationId) :
    i ∈ c.approvals.keys ↔ i ∈ points.institutionIds := by
  obtain ⟨-, -, happrovals⟩ := beq_recalculate_iff.1 h
  rw [← Approvals.get?_reconcile_isSome_iff, happrovals, SortedMap.mem_keys_iff,
    Option.isSome_iff_exists]

namespace Cli

variable {facts : PublicationFacts} {registry : OrganizationRegistry} {e : PointEvaluation}
  {reason : InvalidFacts}

theorem scoreFacts_eq_ok_iff :
    scoreFacts facts registry = .ok e ↔ scoreThrough registry.fetch facts = .ok e := by
  rw [scoreFacts]
  cases scoreThrough registry.fetch facts with
  | error err => exact ⟨nofun, nofun⟩
  | ok e' =>
    constructor
    · intro h
      cases h
      rfl
    · intro h
      cases h
      rfl

theorem scoreFacts_eq_notApplicable_iff :
    scoreFacts facts registry = .error (.candidate (.notApplicable reason)) ↔
      scoreThrough registry.fetch facts = .error (.invalidFacts reason) := by
  rw [scoreFacts]
  rcases scoreThrough registry.fetch facts with (reason' | defect) | e'
  · constructor
    · intro h
      cases h
      rfl
    · intro h
      cases h
      rfl
  · exact ⟨nofun, nofun⟩
  · exact ⟨nofun, nofun⟩

/-- On any store that came about through the service: a publication is scored if and only if it is
evaluated.  Then the candidate that is kept has the points of the score, can earn points, and has the
approvals of the institutions in them, and the same affiliations are excluded for the same reasons.  Both
refuse facts that earn no points, and give the same reason. -/
theorem scoreFacts_agrees {ι : Type} [DecidableEq ι] (os : List Organization) (attempts : Nat)
    (facts : PublicationFacts) (turns : List (Turn ι)) :
    let registry := OrganizationRegistry.ofOrganizations os
    let store := ((System.initial : System ι).play turns).store
    let evaluation := (evaluate registry.fetch attempts facts).run CandidateStore.backend store
    ((∃ e, scoreFacts facts registry = .ok e) ↔ ∃ report, evaluation.1 = .ok report) ∧
    (∀ e report, scoreFacts facts registry = .ok e → evaluation.1 = .ok report →
      (report.stored.candidate.points == e.calculation) = true ∧ report.excluded = e.excluded ∧
      evaluation.2.load facts.candidate = some report.stored ∧
      report.stored.candidate.applicable = true ∧
      ∀ i, i ∈ report.stored.candidate.approvals.keys ↔ i ∈ e.calculation.institutionIds) ∧
    ∀ reason, scoreFacts facts registry = .error (.candidate (.notApplicable reason)) ↔
      evaluation.1 = .error (.notApplicable reason) := by
  intro registry store evaluation
  have hfiled : store.Filed := (System.lawful_play System.lawful_initial turns).filed
  simp only [scoreFacts_eq_ok_iff, scoreFacts_eq_notApplicable_iff]
  cases hscore : scoreThrough registry.fetch facts with
  | error err =>
    cases err with
    | invalidFacts reason =>
      have hrun : evaluation.1 = .error (.notApplicable reason) :=
        congrArg Prod.fst (run_evaluate_of_invalidFacts hfiled hscore attempts)
      simp [hrun]
    | defect d =>
      have hrun : evaluation.1 = .error (.calculation d) :=
        congrArg Prod.fst (run_evaluate_of_defect hscore attempts)
      simp [hrun]
  | ok e =>
    obtain ⟨after, hrun, hload⟩ := run_evaluate_of_ok hfiled hscore attempts
    have hevaluation : evaluation = _ := hrun
    rw [hevaluation]
    refine ⟨⟨fun _ => ⟨_, rfl⟩, fun _ => ⟨e, rfl⟩⟩, ?_, fun reason => ⟨nofun, nofun⟩⟩
    intro e' report he hreport
    cases he
    cases hreport
    -- what is kept in the end is not changed by the points
    let final := revised facts.publication e.calculation (store.load facts.candidate)
    have hkept : (final.candidate == final.candidate.recalculate e.calculation) = true :=
      recalculate_revised
    obtain ⟨happlicable, hpoints, -⟩ := Candidate.beq_recalculate_iff.1 hkept
    exact ⟨hpoints, rfl, hload, happlicable, Candidate.mem_keys_of_beq_recalculate hkept⟩

end Cli

end PublicationIndicator
