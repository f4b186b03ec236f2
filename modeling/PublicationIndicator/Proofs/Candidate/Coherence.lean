import PublicationIndicator.Candidate.Basic
import PublicationIndicator.Proofs.Approval.Coherence

/-!
# PublicationIndicator.Proofs.Candidate.Coherence — what holds of a candidate after any history

`Candidate.run` carries out steps, each an event or a normalization, and skips the events that are
refused.  A candidate that starts from its points stays coherent whatever happens to it: the approvals
are those of the institutions with points, each with the organizations that are involved now, and each
approval's fields fit its status.

* `get?_reconcile`: what reconciling approvals with new points answers.
* `coherent_step`: one step keeps `Candidate.Coherent`.
* `coherent_run_create`: so does every run, and normalizing changes nothing on the way.
-/

namespace PublicationIndicator

/-! ### Reconciling -/

namespace SortedMap

variable {κ α β : Type} [Keyed κ] [DecidableEq κ]

/-- Look-up among entries made from a list finds what the entry was made from. -/
theorem lookupIn_map (k : κ) (f : β → κ) (g : β → α) (l : List β) :
    lookupIn k (l.map fun b => (f b, g b)) = (l.find? (fun b => f b = k)).map g := by
  induction l with
  | nil => rfl
  | cons b rest ih =>
    rw [List.map_cons, lookupIn, ih]
    by_cases hk : f b = k
    · simp [hk]
    · have hk' : key k ≠ key (f b) := fun h => hk (key_inj.1 h).symm
      simp [hk, hk']

end SortedMap

namespace Approvals

/-- The reconciled approval of an institution follows the last points that name it. -/
theorem get?_reconcile (as : Approvals) (points : PointCalculation) (i : OrganizationId) :
    (as.reconcile points).get? i =
      (points.institutions.reverse.find? (fun p => p.institution = i)).map as.following := by
  rw [reconcile, SortedMap.get?_ofList, ← List.map_reverse, SortedMap.lookupIn_map]

theorem exists_of_get?_reconcile {as : Approvals} {points : PointCalculation} {i : OrganizationId}
    {a : Approval} (h : (as.reconcile points).get? i = some a) :
    ∃ p ∈ points.institutions, p.institution = i ∧ a = as.following p := by
  rw [get?_reconcile, Option.map_eq_some_iff] at h
  obtain ⟨p, hp, rfl⟩ := h
  exact ⟨p, List.mem_reverse.1 (List.mem_of_find?_eq_some hp), by simpa using List.find?_some hp, rfl⟩

/-- Some points name the institution last if and only if it earns some. -/
theorem isSome_find?_iff {points : PointCalculation} {i : OrganizationId} :
    (points.institutions.reverse.find? (fun p => p.institution = i)).isSome ↔
      i ∈ points.institutionIds := by
  rw [List.find?_isSome]
  simp [PointCalculation.institutionIds]

/-- The institutions with an approval are those that earn points, however often each is named. -/
theorem get?_reconcile_isSome_iff {as : Approvals} {points : PointCalculation} {i : OrganizationId} :
    ((as.reconcile points).get? i).isSome ↔ i ∈ points.institutionIds := by
  rw [get?_reconcile, Option.isSome_map, isSome_find?_iff]

theorem mem_keys_reconcile_iff {as : Approvals} {points : PointCalculation} {i : OrganizationId} :
    i ∈ (as.reconcile points).keys ↔ i ∈ points.institutionIds := by
  rw [SortedMap.mem_keys_iff, ← Option.isSome_iff_exists, get?_reconcile_isSome_iff]

theorem exists_following {points : PointCalculation} {i : OrganizationId} (as : Approvals)
    (hi : i ∈ points.institutionIds) : ∃ p ∈ points.institutions, p.institution = i ∧
      (as.reconcile points).get? i = some (as.following p) := by
  have hsome : ((as.reconcile points).get? i).isSome := get?_reconcile_isSome_iff.2 hi
  obtain ⟨a, ha⟩ := Option.isSome_iff_exists.1 hsome
  obtain ⟨p, hp, hpi, rfl⟩ := exists_of_get?_reconcile ha
  exact ⟨p, hp, hpi, ha⟩

/-- Where no institution stands twice, each approval follows the points of its institution. -/
theorem get?_reconcile_of_mem {as : Approvals} {points : PointCalculation} {p : InstitutionPoints}
    (hn : points.institutionIds.Nodup) (hp : p ∈ points.institutions) :
    (as.reconcile points).get? p.institution = some (as.following p) := by
  rw [reconcile, SortedMap.get?_ofList]
  refine SortedMap.lookupIn_of_mem_of_nodup ?_ ?_
  · rw [← List.map_reverse, List.map_map]
    exact (List.reverse_perm _).map _ |>.nodup_iff.2 hn
  · rw [List.mem_reverse]
    exact List.mem_map_of_mem hp

variable {as : Approvals} {p : InstitutionPoints}

/-- The fields of every approval fit its status. -/
def Coherent (as : Approvals) : Prop := ∀ i a, as.get? i = some a → a.Coherent

theorem following_institution (h : ∀ i a, as.get? i = some a → a.institution = i) :
    (as.following p).institution = p.institution := by
  unfold following
  split
  · rename_i a ha
    exact h _ a ha
  · rfl

theorem following_involvedOrganizations :
    (as.following p).involvedOrganizations = p.involvedOrganizations := by
  unfold following
  split <;> rfl

theorem coherent_following (h : as.Coherent) : (as.following p).Coherent := by
  unfold following
  split
  · rename_i a ha
    exact (h _ a ha).involving _
  · exact Approval.coherent_fresh _ _

theorem coherent_empty : Coherent .empty := by
  intro i a h
  cases h

theorem coherent_reconcile (h : as.Coherent) (points : PointCalculation) :
    (as.reconcile points).Coherent := by
  intro i a ha
  obtain ⟨p, -, -, rfl⟩ := exists_of_get?_reconcile ha
  exact coherent_following h

theorem coherent_apply {as' : Approvals} {r : ApprovalRequest} {time : Instant} (h : as.Coherent)
    (ha : as.apply r time = .ok as') : as'.Coherent := by
  obtain ⟨a, a', hg, ha', rfl⟩ := apply_eq_ok_iff.1 ha
  exact SortedMap.forall_get?_insert (Approval.coherent_apply (h _ _ hg) ha') h

/-- If every approval's fields fit its status, all of them are normalized. -/
theorem Coherent.normalized_eq (h : as.Coherent) : as.normalized = as := by
  refine SortedMap.ext_get? fun i => ?_
  rw [normalized, SortedMap.get?_mapValues]
  cases hi : as.get? i with
  | none => rfl
  | some a => rw [Option.map_some, (h i a hi).normalized_eq]

end Approvals

/-! ### Coherent candidates -/

/-- The approvals of a candidate fit its points and themselves. -/
structure Candidate.Coherent (c : Candidate) : Prop where
  /-- Those institutions have an approval that have points. -/
  keys : ∀ i, i ∈ c.approvals.keys ↔ i ∈ c.points.institutionIds
  institution : ∀ i a, c.approvals.get? i = some a → a.institution = i
  /-- The organizations involved are those of the points that the institution has now. -/
  involved : ∀ i a, c.approvals.get? i = some a → ∀ p ∈ c.points.institutions, p.institution = i →
    a.involvedOrganizations = p.involvedOrganizations
  fields : c.approvals.Coherent

/-- What may happen to a candidate: an event, or that its approvals are normalized. -/
inductive CandidateStep where
  | event (e : CandidateEvent)
  | normalize

/-- New points name no institution twice. -/
def CandidateStep.Distinct : CandidateStep → Prop
  | .event (.pointsCalculated points) => points.institutionIds.Nodup
  | _ => True

namespace Candidate

/-- The candidate after a step; an event that is refused changes nothing. -/
def step (c : Candidate) : CandidateStep → Candidate
  | .event e =>
    match c.apply e with
    | .ok c' => c'
    | .error _ => c
  | .normalize => c.normalized

/-- The candidate after some steps. -/
def run (c : Candidate) (steps : List CandidateStep) : Candidate := steps.foldl step c

variable {c c' : Candidate}

/-- A request succeeds on an applicable candidate whose approvals it succeeds on. -/
theorem review_eq_ok_iff {r : ApprovalRequest} {time : Instant} :
    c.review r time = .ok c' ↔ c.applicable = true ∧
      ∃ as, c.approvals.apply r time = .ok as ∧ c' = { c with approvals := as } := by
  unfold review
  by_cases ha : c.applicable = true
  · cases c.approvals.apply r time with
    | error e => simp [ha]
    | ok as => simp [ha, eq_comm]
  · simp [ha]

theorem normalized_eq (h : c.approvals.Coherent) : c.normalized = c := by
  rw [normalized, h.normalized_eq]

/-! ### Events -/

/-- No event gives a candidate another name. -/
theorem apply_id {e : CandidateEvent} (h : c.apply e = .ok c') :
    c'.id = c.id ∧ c'.publication = c.publication := by
  cases e with
  | pointsCalculated points =>
    cases h
    exact ⟨rfl, rfl⟩
  | notApplicable =>
    cases h
    exact ⟨rfl, rfl⟩
  | approval r time =>
    obtain ⟨-, as', -, rfl⟩ := review_eq_ok_iff.1 h
    exact ⟨rfl, rfl⟩

/-- An event leaves every approval's fields fitting its status. -/
theorem approvals_coherent_apply {e : CandidateEvent} (hc : c.approvals.Coherent)
    (h : c.apply e = .ok c') : c'.approvals.Coherent := by
  cases e with
  | pointsCalculated points =>
    cases h
    exact Approvals.coherent_reconcile hc points
  | notApplicable =>
    cases h
    exact hc
  | approval r time =>
    obtain ⟨-, as', has, rfl⟩ := review_eq_ok_iff.1 h
    exact Approvals.coherent_apply hc has

/-- Recalculating from coherent approvals makes a coherent candidate. -/
theorem coherent_recalculate {points : PointCalculation} (hn : points.institutionIds.Nodup)
    (hi : ∀ i a, c.approvals.get? i = some a → a.institution = i) (hf : c.approvals.Coherent) :
    (c.recalculate points).Coherent where
  keys _ := Approvals.mem_keys_reconcile_iff
  institution i a ha := by
    obtain ⟨p, -, rfl, rfl⟩ := Approvals.exists_of_get?_reconcile ha
    exact Approvals.following_institution hi
  involved i a ha p hp hi := by
    subst hi
    have hr : (c.recalculate points).approvals.get? p.institution = some (c.approvals.following p) :=
      Approvals.get?_reconcile_of_mem hn hp
    rw [hr] at ha
    cases ha
    exact Approvals.following_involvedOrganizations
  fields := Approvals.coherent_reconcile hf points

/-- A new candidate is recalculated from one without approvals. -/
theorem coherent_create (publication : PublicationId) {points : PointCalculation}
    (hn : points.institutionIds.Nodup) : (create publication points).Coherent := by
  refine coherent_recalculate (c := ⟨publication.candidate, publication, true, points, .empty⟩) hn
    ?_ Approvals.coherent_empty
  intro i a h
  cases h

/-- A request that is carried out changes one approval, and that one coherently. -/
theorem coherent_review {r : ApprovalRequest} {time : Instant} (hc : c.Coherent)
    (h : c.review r time = .ok c') : c'.Coherent := by
  obtain ⟨-, as', has, rfl⟩ := review_eq_ok_iff.1 h
  obtain ⟨a, a', ha, ha', rfl⟩ := Approvals.apply_eq_ok_iff.1 has
  obtain ⟨hin, hinv⟩ := Approval.frame_apply ha'
  refine ⟨fun i => ?_, ?_, ?_, Approvals.coherent_apply hc.fields has⟩
  · rw [← hc.keys, SortedMap.mem_keys_insert, or_iff_right_of_imp]
    rintro rfl
    exact SortedMap.mem_keys_iff.2 ⟨a, ha⟩
  · exact SortedMap.forall_get?_insert (hin.trans (hc.institution _ _ ha)) hc.institution
  · exact SortedMap.forall_get?_insert (fun p hp hi => hinv.trans (hc.involved _ a ha p hp hi))
      hc.involved

/-- One step keeps a candidate coherent. -/
theorem coherent_step {s : CandidateStep} (hs : s.Distinct) (hc : c.Coherent) :
    (c.step s).Coherent := by
  cases s with
  | normalize =>
    rw [step, normalized_eq hc.fields]
    exact hc
  | event e =>
    cases e with
    | pointsCalculated points => exact coherent_recalculate hs hc.institution hc.fields
    | notApplicable => exact ⟨hc.keys, hc.institution, hc.involved, hc.fields⟩
    | approval r time =>
      rw [step, apply]
      cases hr : c.review r time with
      | error e => exact hc
      | ok c' => exact coherent_review hc hr

theorem step_id (s : CandidateStep) : (c.step s).id = c.id ∧ (c.step s).publication = c.publication := by
  cases s with
  | normalize => exact ⟨rfl, rfl⟩
  | event e =>
    rw [step]
    cases he : c.apply e with
    | error _ => exact ⟨rfl, rfl⟩
    | ok c' => exact apply_id he

theorem coherent_run {steps : List CandidateStep} (hs : ∀ s ∈ steps, s.Distinct) (hc : c.Coherent) :
    (c.run steps).Coherent := by
  induction steps generalizing c with
  | nil => exact hc
  | cons s rest ih =>
    exact ih (fun s' h => hs s' (List.mem_cons_of_mem _ h)) (coherent_step (hs s (by simp)) hc)

theorem run_id (steps : List CandidateStep) :
    (c.run steps).id = c.id ∧ (c.run steps).publication = c.publication := by
  induction steps generalizing c with
  | nil => exact ⟨rfl, rfl⟩
  | cons s rest ih =>
    obtain ⟨hi, hp⟩ := ih (c := c.step s)
    exact ⟨hi.trans (step_id s).1, hp.trans (step_id s).2⟩

/-- Whatever happens to a new candidate, its approvals fit its points and themselves, it keeps its
names, and normalizing it changes nothing. -/
theorem coherent_run_create (publication : PublicationId) (points : PointCalculation)
    (steps : List CandidateStep) (hn : points.institutionIds.Nodup)
    (hs : ∀ s ∈ steps, s.Distinct) :
    ((create publication points).run steps).Coherent ∧
      ((create publication points).run steps).id = publication.candidate ∧
      ((create publication points).run steps).publication = publication ∧
      ((create publication points).run steps).normalized =
        (create publication points).run steps := by
  have hc := coherent_run hs (coherent_create publication hn)
  obtain ⟨hi, hp⟩ := run_id (c := create publication points) steps
  exact ⟨hc, hi, hp, normalized_eq hc.fields⟩

/-- A rejection that is taken over by a recalculation and then decided again. -/
theorem coherent_run_rejected :
    let a : InstitutionPoints := ⟨⟨"a"⟩, .one, [⟨.verified "x", ⟨"a.1"⟩, .one⟩]⟩
    let b : InstitutionPoints := ⟨⟨"b"⟩, .one, []⟩
    let points (ps : List InstitutionPoints) : PointCalculation :=
      ⟨.academicArticle, ⟨"j", .journal, .levelOne⟩, true, .ofTenths 13, .one, 2, .one, ps⟩
    let time : Instant := ⟨⟨2026, 1, 1, by decide, by decide⟩, 0, 0, 0⟩
    let request (action : ApprovalAction) : CandidateStep :=
      .event (.approval ⟨⟨"a"⟩, action, ⟨"curator"⟩, none⟩ time)
    let steps : List CandidateStep :=
      [request (.assign ⟨"curator"⟩), request (.decide .rejected (some "no share")),
        .event (.pointsCalculated (points [a])), .event .notApplicable, .normalize,
        .event (.pointsCalculated (points [b, a])), request .reopen,
        request (.decide .approved none)]
    (points [a, b]).institutionIds.Nodup ∧ (∀ s ∈ steps, s.Distinct) ∧
      ((create ⟨"p"⟩ (points [a, b])).run steps).Coherent ∧
      ((create ⟨"p"⟩ (points [a, b])).run steps).id = ⟨"p"⟩ ∧
      ((create ⟨"p"⟩ (points [a, b])).run steps).publication = ⟨"p"⟩ ∧
      ((create ⟨"p"⟩ (points [a, b])).run steps).normalized =
        (create ⟨"p"⟩ (points [a, b])).run steps := by
  intro a b points time request steps
  have hn : (points [a, b]).institutionIds.Nodup := by decide
  have hs : ∀ s ∈ steps, s.Distinct := by
    simp [steps, request, CandidateStep.Distinct, PointCalculation.institutionIds, points, a, b]
  exact ⟨hn, hs, coherent_run_create ⟨"p"⟩ (points [a, b]) steps hn hs⟩

end Candidate

end PublicationIndicator
