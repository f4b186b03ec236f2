import PublicationIndicator.Proofs.Candidate.Coherence

/-!
# PublicationIndicator.Proofs.Candidate.Recalculation — new points, and the same points twice

New points keep what the institutions have done that still earn some (`apply_pointsCalculated`).  Giving
a candidate the points that it has already changes nothing, whatever its approvals say, and it does not
matter whether approvals are normalized before they are reconciled with points or after.  So a
recalculated candidate that is stored and loaded again is up to date with its points, and it stays so
whatever institutions do with their approvals (`beq_recalculate_apply`).
-/

namespace PublicationIndicator

/-! ### Normalizing -/

namespace Approval

theorem normalized_normalized (a : Approval) : a.normalized.normalized = a.normalized := by
  by_cases h : a.status = .new ∧ a.assignee.isSome
  · simp [normalized, h]
  · simp only [normalized, if_neg h]

theorem normalized_involving (a : Approval) (involved : SortedSet OrganizationId) :
    normalized { a with involvedOrganizations := involved } =
      { a.normalized with involvedOrganizations := involved } := by
  unfold normalized
  split <;> rfl

end Approval

namespace Approvals

variable (as : Approvals) (points : PointCalculation) (p : InstitutionPoints)

theorem get?_normalized (i : OrganizationId) :
    as.normalized.get? i = (as.get? i).map Approval.normalized :=
  SortedMap.get?_mapValues _ _ _

theorem normalized_normalized : as.normalized.normalized = as.normalized := by
  refine SortedMap.ext_get? fun i => ?_
  rw [get?_normalized, get?_normalized, Option.map_map]
  have h : Approval.normalized ∘ Approval.normalized = Approval.normalized :=
    funext Approval.normalized_normalized
  rw [h]

theorem following_normalized : as.normalized.following p = (as.following p).normalized := by
  rw [following, following, get?_normalized]
  cases as.get? p.institution with
  | none => rfl
  | some a => exact (a.normalized_involving _).symm

/-- Normalized approvals stay normalized, and no institution is treated otherwise for it. -/
theorem reconcile_normalized : as.normalized.reconcile points = (as.reconcile points).normalized := by
  refine SortedMap.ext_get? fun i => ?_
  have h : as.normalized.following = Approval.normalized ∘ as.following :=
    funext as.following_normalized
  rw [get?_normalized, get?_reconcile, get?_reconcile, Option.map_map, h]

/-! ### Reconciling twice -/

theorem following_reconcile (h : (as.reconcile points).get? p.institution = some (as.following p)) :
    (as.reconcile points).following p = as.following p := by
  have hinvolved : (as.following p).involvedOrganizations = p.involvedOrganizations :=
    following_involvedOrganizations
  rw [following, h, ← hinvolved]

/-- Reconciling a second time finds every institution with the approval that it gets. -/
theorem reconcile_reconcile : (as.reconcile points).reconcile points = as.reconcile points := by
  refine SortedMap.ext_get? fun i => ?_
  rw [get?_reconcile _ _ i, get?_reconcile as _ i]
  cases hp : points.institutions.reverse.find? (fun p => p.institution = i) with
  | none => rfl
  | some p =>
    -- the same points decide both times, and the second time they find their own approval
    have hi : p.institution = i := by simpa using List.find?_some hp
    have hget : (as.reconcile points).get? p.institution = some (as.following p) := by
      rw [get?_reconcile, hi, hp]
      rfl
    rw [Option.map_some, Option.map_some, following_reconcile as points p hget]

/-! ### Reconciling what an institution has changed -/

/-- An approval that is put in before reconciling comes out of it with the organizations of the points,
and no other approval is treated otherwise for it. -/
theorem reconcile_insert_of_find? (as : Approvals) {points : PointCalculation} {i : OrganizationId}
    {p : InstitutionPoints} (a' : Approval)
    (hp : points.institutions.reverse.find? (fun p => p.institution = i) = some p) :
    reconcile (as.insert i a') points =
      (as.reconcile points).insert i { a' with involvedOrganizations := p.involvedOrganizations } := by
  refine SortedMap.ext_get? fun j => ?_
  by_cases hij : j = i
  · subst hij
    have hpj : p.institution = j := by simpa using List.find?_some hp
    rw [get?_reconcile, hp, Option.map_some, following, hpj, SortedMap.get?_insert_self,
      SortedMap.get?_insert_self]
  · rw [SortedMap.get?_insert_of_ne hij, get?_reconcile, get?_reconcile]
    refine Option.map_congr fun q hq => ?_
    have hqj : q.institution = j := by simpa using List.find?_some hq
    rw [following, following, hqj, SortedMap.get?_insert_of_ne hij]

/-- What institutions do with their approvals changes nothing about reconciled ones, as long as each
approval names the same organizations as before. -/
theorem reconcile_insert {as : Approvals} {points : PointCalculation} {i : OrganizationId}
    {a a' : Approval} (h : as.reconcile points = as) (ha : as.get? i = some a)
    (hinvolved : a'.involvedOrganizations = a.involvedOrganizations) :
    reconcile (as.insert i a') points = as.insert i a' := by
  rw [← h, get?_reconcile] at ha
  obtain ⟨p, hp, rfl⟩ := Option.map_eq_some_iff.1 ha
  have hpa : p.involvedOrganizations = a'.involvedOrganizations := by
    rw [hinvolved, following_involvedOrganizations]
  rw [reconcile_insert_of_find? as a' hp, h, hpa]

end Approvals

/-! ### Candidates -/

namespace Candidate

variable (c : Candidate) (publication : PublicationId) (points : PointCalculation)

theorem normalized_normalized : c.normalized.normalized = c.normalized := by
  simp [normalized, Approvals.normalized_normalized]

theorem recalculate_normalized : c.normalized.recalculate points = (c.recalculate points).normalized := by
  simp [normalized, recalculate, Approvals.reconcile_normalized]

/-- The same points twice are as good as once. -/
theorem recalculate_recalculate : (c.recalculate points).recalculate points = c.recalculate points := by
  simp [recalculate, Approvals.reconcile_reconcile]

theorem recalculate_create : (create publication points).recalculate points = create publication points := by
  simp [recalculate, create, Approvals.reconcile_reconcile]

theorem normalized_create : (create publication points).normalized = create publication points :=
  normalized_eq (Approvals.coherent_reconcile Approvals.coherent_empty points)

/-! ### All that new points do -/

/-- New points are taken by any candidate, which is applicable then and keeps its names.  If no
institution stands twice among them, just those institutions have an approval: the one that they had,
with the organizations that are involved now, or a new one that nobody works on.  The same points again
change nothing, however often an institution is named, and neither do the points of a new candidate. -/
theorem apply_pointsCalculated :
    ∃ c', c.apply (.pointsCalculated points) = .ok c' ∧
      c'.points = points ∧ c'.applicable = true ∧ c'.id = c.id ∧ c'.publication = c.publication ∧
      (points.institutionIds.Nodup →
        (∀ i, i ∈ c'.approvals.keys ↔ i ∈ points.institutionIds) ∧
        ∀ p ∈ points.institutions, c'.approvals.get? p.institution = some
          (match c.approvals.get? p.institution with
          | some a => { a with involvedOrganizations := p.involvedOrganizations }
          | none => ⟨p.institution, .new, none, p.involvedOrganizations, none, none, none⟩)) ∧
      c'.apply (.pointsCalculated points) = .ok c' ∧
      (create publication points).apply (.pointsCalculated points) =
        .ok (create publication points) := by
  refine ⟨c.recalculate points, rfl, rfl, rfl, rfl, rfl, fun hn => ⟨?_, fun p hp => ?_⟩, ?_, ?_⟩
  · exact fun i => Approvals.mem_keys_reconcile_iff
  · have hget : (c.approvals.reconcile points).get? p.institution = some (c.approvals.following p) :=
      Approvals.get?_reconcile_of_mem hn hp
    refine hget.trans (congrArg some ?_)
    rw [Approvals.following]
    cases c.approvals.get? p.institution <;> rfl
  · exact congrArg Except.ok (c.recalculate_recalculate points)
  · exact congrArg Except.ok (recalculate_create publication points)

/-- One institution has rejected and one has lost its points; the record of the third names another
institution, as no history leaves it. -/
theorem apply_pointsCalculated_rejected :
    let points (ps : List InstitutionPoints) : PointCalculation :=
      ⟨.academicArticle, ⟨"j", .journal, .levelOne⟩, true, .ofTenths 13, .one, 2, .one, ps⟩
    let time : Instant := ⟨⟨2026, 1, 1, by decide, by decide⟩, 0, 0, 0⟩
    let rejected : Approval :=
      ⟨⟨"a"⟩, .rejected, some ⟨"x"⟩, .empty, some ⟨"x"⟩, some time, some "no share"⟩
    let c : Candidate := ⟨⟨"p"⟩, ⟨"q"⟩, false, points [],
      .ofList [(⟨"a"⟩, rejected), (⟨"b"⟩, .fresh ⟨"b"⟩ .empty), (⟨"c"⟩, .fresh ⟨"z"⟩ .empty)]⟩
    let entries : List CreatorPoints := [⟨.verified "x", ⟨"a.1"⟩, .one⟩, ⟨.verified "x", ⟨"a"⟩, .one⟩]
    let found := points [⟨⟨"d"⟩, .one, []⟩, ⟨⟨"c"⟩, .one, []⟩, ⟨⟨"a"⟩, .one, entries⟩]
    found.institutionIds.Nodup ∧ ∃ c', c.apply (.pointsCalculated found) = .ok c' ∧
      c'.approvals.get? ⟨"a"⟩ = some { rejected with involvedOrganizations := .ofList [⟨"a.1"⟩] } ∧
      c'.approvals.get? ⟨"c"⟩ = some ⟨⟨"z"⟩, .new, none, .empty, none, none, none⟩ ∧
      c'.approvals.get? ⟨"d"⟩ = some ⟨⟨"d"⟩, .new, none, .empty, none, none, none⟩ ∧
      ⟨"b"⟩ ∉ c'.approvals.keys ∧ c'.apply (.pointsCalculated found) = .ok c' := by
  intro points time rejected c entries found
  have hn : found.institutionIds.Nodup := by decide
  obtain ⟨c', hc', -, -, -, -, hdistinct, hagain, -⟩ :=
    c.apply_pointsCalculated ⟨"q"⟩ found
  obtain ⟨hkeys, happrovals⟩ := hdistinct hn
  have ha := happrovals ⟨⟨"a"⟩, .one, entries⟩ (by simp [found, points])
  have hc := happrovals ⟨⟨"c"⟩, .one, []⟩ (by simp [found, points])
  have hd := happrovals ⟨⟨"d"⟩, .one, []⟩ (by simp [found, points])
  have hb : ⟨"b"⟩ ∉ c'.approvals.keys := by
    rw [hkeys]
    decide
  exact ⟨hn, c', hc', ha.trans (by decide +kernel), hc.trans (by decide +kernel),
    hd.trans (by decide +kernel), hb, hagain⟩

/-! ### Being up to date -/

variable {c : Candidate} {publication : PublicationId} {points : PointCalculation}

/-- The points change nothing about a candidate that can earn points, has these, and whose approvals are
those of the institutions that earn them. -/
theorem beq_recalculate_iff : (c == c.recalculate points) = true ↔
    c.applicable = true ∧ (c.points == points) = true ∧ c.approvals.reconcile points = c.approvals := by
  change ((c.id == c.id) && ((c.publication == c.publication) && ((c.applicable == true) &&
    ((c.points == points) && (c.approvals == c.approvals.reconcile points))))) = true ↔ _
  simp only [beq_self_eq_true, Bool.true_and, Bool.and_eq_true, beq_iff_eq, beq_true]
  exact and_congr_right fun _ => and_congr_right fun _ => eq_comm

/-- What is stored and loaded again is as much up to date as before. -/
theorem beq_recalculate_normalized (h : (c == c.recalculate points) = true) :
    (c.normalized == c.normalized.recalculate points) = true := by
  obtain ⟨happlicable, hpoints, happrovals⟩ := beq_recalculate_iff.1 h
  refine beq_recalculate_iff.2 ⟨happlicable, hpoints, ?_⟩
  exact (Approvals.reconcile_normalized _ _).trans (congrArg Approvals.normalized happrovals)

/-- No request makes a candidate out of date. -/
theorem beq_recalculate_apply {c' : Candidate} {r : ApprovalRequest} {time : Instant}
    (h : (c == c.recalculate points) = true) (hr : c.apply (.approval r time) = .ok c') :
    (c' == c'.recalculate points) = true := by
  obtain ⟨happlicable, hpoints, happrovals⟩ := beq_recalculate_iff.1 h
  obtain ⟨-, as, has, rfl⟩ := review_eq_ok_iff.1 hr
  obtain ⟨a, a', ha, ha', rfl⟩ := Approvals.apply_eq_ok_iff.1 has
  have hinvolved : a'.involvedOrganizations = a.involvedOrganizations := (Approval.frame_apply ha').2
  exact beq_recalculate_iff.2
    ⟨happlicable, hpoints, Approvals.reconcile_insert happrovals ha hinvolved⟩

end Candidate

end PublicationIndicator
