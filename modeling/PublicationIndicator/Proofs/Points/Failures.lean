import PublicationIndicator.Proofs.Organization.Declaration
import PublicationIndicator.Proofs.Points.Accounting
import PublicationIndicator.Proofs.Points.Agreement

/-!
# PublicationIndicator.Proofs.Points.Failures — what becomes of affiliations that fail

The chain of an affiliation that fails leaves no trace: a snapshot's hierarchy is the one that the other
chains declare together (`Snapshot.keeps_take`).  The affiliation itself may still be mentioned in one of
those.  If it is not, it is left out of the points with the reason of its failure, and if it is, it counts
like any other (`failures_take`).
-/

namespace PublicationIndicator

/-! ### Snapshots -/

namespace Snapshot

/-- The records that were delivered for those of `done` that did not fail. -/
def accepted (provider : OrganizationProvider) (done : List OrganizationId) (s : Snapshot) :
    List Organization :=
  (done.filter fun a => a ∉ s.failures.map Prod.fst).flatMap fun a => (provider a).toOption.getD []

/-- The hierarchy is the one that the accepted records declare, and each failure is of one of `done`. -/
structure Keeps (provider : OrganizationProvider) (done : List OrganizationId) (s : Snapshot) :
    Prop where
  hierarchy : Hierarchy.ofOrganizations (accepted provider done s) = .ok s.hierarchy
  failures : (s.failures.map Prod.fst).Sublist done

variable {provider : OrganizationProvider} {done affiliations : List OrganizationId} {s : Snapshot}
  {a : OrganizationId} {err : FetchError}

theorem mentions_accepted_iff {i : OrganizationId} : Mentions (accepted provider done s) i ↔
    ∃ b ∈ done, b ∉ s.failures.map Prod.fst ∧ ∃ chain, provider b = .ok chain ∧ Mentions chain i := by
  constructor
  · rintro ⟨o, ho, hi⟩
    obtain ⟨b, hb, ho⟩ := List.mem_flatMap.1 ho
    obtain ⟨hdone, hfailed⟩ := List.mem_filter.1 hb
    cases hchain : provider b with
    | error e =>
      rw [hchain] at ho
      cases ho
    | ok chain =>
      rw [hchain] at ho
      exact ⟨b, hdone, by simpa using hfailed, chain, hchain, o, ho, hi⟩
  · rintro ⟨b, hdone, hfailed, chain, hchain, o, ho, hi⟩
    refine ⟨o, List.mem_flatMap.2 ⟨b, List.mem_filter.2 ⟨hdone, by simpa using hfailed⟩, ?_⟩, hi⟩
    rw [hchain]
    exact ho

/-- A failure leaves the hierarchy as it was. -/
theorem keeps_fail (hs : Keeps provider done s) (ha : a ∉ done) :
    Keeps provider (done ++ [a]) { s with failures := s.failures ++ [(a, err)] } := by
  have haccepted : accepted provider (done ++ [a]) { s with failures := s.failures ++ [(a, err)] } =
      accepted provider done s := by
    unfold accepted
    congr 1
    rw [List.filter_append]
    have hlast : [a].filter (fun b => b ∉ (s.failures ++ [(a, err)]).map Prod.fst) = [] := by simp
    rw [hlast, List.append_nil]
    refine List.filter_congr fun b hb => ?_
    have hba : b ≠ a := fun h => ha (h ▸ hb)
    simp [hba]
  refine ⟨?_, ?_⟩
  · rw [haccepted]
    exact hs.hierarchy
  · rw [List.map_append]
    exact hs.failures.append (List.Sublist.refl [a])

/-- A chain that goes together with the others is accepted. -/
theorem keeps_extend {chain : List Organization} {h : Hierarchy} (hs : Keeps provider done s)
    (ha : a ∉ done) (hchain : provider a = .ok chain) (hh : s.hierarchy.extend chain = .ok h) :
    Keeps provider (done ++ [a]) { s with hierarchy := h } := by
  have hfailed : a ∉ s.failures.map Prod.fst := fun hmem => ha (hs.failures.subset hmem)
  have haccepted : accepted provider (done ++ [a]) { s with hierarchy := h } =
      accepted provider done s ++ chain := by
    have hlast : [a].filter (fun b => b ∉ s.failures.map Prod.fst) = [a] := by simpa using hfailed
    rw [accepted, List.filter_append, hlast, List.flatMap_append]
    simp [accepted, hchain, Except.toOption]
  refine ⟨?_, hs.failures.trans (List.sublist_append_left done [a])⟩
  rw [haccepted]
  exact (Hierarchy.ofOrganizations_append hs.hierarchy chain).trans hh

theorem keeps_add (hs : Keeps provider done s) (ha : a ∉ done) :
    Keeps provider (done ++ [a]) (s.add provider a) := by
  obtain ⟨e, hfails⟩ | ⟨chain, h, hchain, hh, hadd⟩ := fails_or_extends provider s a
  · rw [add_of_fails hfails]
    exact keeps_fail hs ha
  · rw [hadd]
    exact keeps_extend hs ha hchain hh

/-- A snapshot shows what the chains declare together that were accepted. -/
theorem keeps_take (provider : OrganizationProvider) (affiliations : List OrganizationId) :
    Keeps provider (firstSeen affiliations) (take provider affiliations) := by
  refine take_induction provider affiliations ⟨rfl, .slnil⟩ ?_
  intro done s a ha hs
  exact keeps_add hs ha

/-- What a snapshot mentions is mentioned in a chain that was accepted. -/
theorem contains_take_iff {i : OrganizationId} :
    (take provider affiliations).hierarchy.contains i = true ↔
      ∃ b ∈ affiliations, b ∉ (take provider affiliations).failures.map Prod.fst ∧
        ∃ chain, provider b = .ok chain ∧ Mentions chain i := by
  have hkeeps := keeps_take provider affiliations
  rw [(shows_of_ofOrganizations hkeeps.hierarchy).contains, mentions_accepted_iff]
  simp only [mem_firstSeen]

/-- No affiliation fails twice. -/
theorem find?_failures_take (hmem : (a, err) ∈ (take provider affiliations).failures) :
    (take provider affiliations).failures.find? (fun e => e.1 = a) = some (a, err) := by
  have hn : ((take provider affiliations).failures.map Prod.fst).Nodup :=
    (nodup_firstSeen affiliations).sublist (keeps_take provider affiliations).failures
  cases hfind : (take provider affiliations).failures.find? (fun e => e.1 = a) with
  | none => exact absurd (decide_eq_true rfl) (List.find?_eq_none.1 hfind _ hmem)
  | some e =>
    have hfirst : e.1 = a := by simpa using List.find?_some hfind
    rw [List.inj_on_of_nodup_map hn (List.mem_of_find?_eq_some hfind) hmem hfirst]

end Snapshot

/-! ### Points -/

section

variable {provider : OrganizationProvider} {f : PublicationFacts} {e : PointEvaluation}
  {a : OrganizationId} {err : FetchError}

theorem exists_score_of_scoreThrough (he : scoreThrough provider f = .ok e) :
    ∃ e', score f (Snapshot.take provider f.affiliations).hierarchy = .ok e' ∧
      e = e'.attribute (Snapshot.take provider f.affiliations).failures := by
  rw [scoreThrough] at he
  cases hscore : score f (Snapshot.take provider f.affiliations).hierarchy with
  | error err =>
    rw [hscore] at he
    cases he
  | ok e' =>
    rw [hscore] at he
    cases he
    exact ⟨e', rfl, rfl⟩

/-- A failed affiliation is left out, with the reason of its failure, unless the snapshot mentions it. -/
theorem mem_excluded_iff (he : scoreThrough provider f = .ok e)
    (hfailed : (a, err) ∈ (Snapshot.take provider f.affiliations).failures) (x : ExcludedAffiliation)
    (hx : x.affiliation = a) : x ∈ e.excluded ↔ (x.creator, a) ∈ f.pairs ∧
      (Snapshot.take provider f.affiliations).hierarchy.contains a = false ∧
      x.reason = err.exclusionReason := by
  obtain ⟨e', he', rfl⟩ := exists_score_of_scoreThrough he
  obtain ⟨-, -, -, -, -, hexcluded, -⟩ := exists_of_score he'
  have hfind := Snapshot.find?_failures_take hfailed
  obtain ⟨c, b, reason⟩ := x
  obtain rfl : b = a := hx
  rw [PointEvaluation.attribute, hexcluded, List.mem_map]
  constructor
  · rintro ⟨y, hy, hyx⟩
    have hyb : y.affiliation = b := by
      have hsame := congrArg ExcludedAffiliation.affiliation hyx
      split at hsame <;> exact hsame
    rw [hyb, hfind] at hyx
    obtain ⟨rfl, -, rfl⟩ := ExcludedAffiliation.mk.inj hyx
    have hpair : (y.creator, b) ∈ (f.unresolved _).map ExcludedAffiliation.pair :=
      List.mem_map.2 ⟨y, hy, Prod.ext rfl hyb⟩
    obtain ⟨hpairs, hcontains⟩ := mem_map_pair_unresolved.1 hpair
    exact ⟨hpairs, hcontains, rfl⟩
  · rintro ⟨hpair, hcontains, rfl⟩
    obtain ⟨y, hy, hyx⟩ := List.mem_map.1 (mem_map_pair_unresolved.2 ⟨hpair, hcontains⟩)
    obtain ⟨rfl, rfl⟩ := Prod.mk.inj hyx
    refine ⟨y, hy, ?_⟩
    rw [hfind]

/-- What is credited through an affiliation is credited to the top of the tree in which it stands. -/
theorem mem_entries_iff (he : scoreThrough provider f = .ok e) {p : InstitutionPoints}
    (hp : p ∈ e.calculation.institutions) {c : CreatorIdentity} :
    (c, a) ∈ p.entries.map CreatorPoints.pair ↔ (c, a) ∈ f.pairs ∧
      (Snapshot.take provider f.affiliations).hierarchy.root? a = some p.institution := by
  obtain ⟨e', he', rfl⟩ := exists_score_of_scoreThrough he
  obtain ⟨credits, hdistributes⟩ := exists_distributes he'
  exact hdistributes.mem_map_pair_entries hp

end

/-- A snapshot contains what the chains mention of those affiliations that did not fail, and nothing else.
If a failed affiliation is not among it, then it is left out for every creator who names it, with the
reason of its failure, and nothing is credited through it.  If it is, because another chain mentions it,
then it is not left out, and is credited to the institution at the top like any other. -/
theorem failures_take (provider : OrganizationProvider) :
    (∀ affiliations i, (Snapshot.take provider affiliations).hierarchy.contains i = true ↔
      ∃ b ∈ affiliations, b ∉ (Snapshot.take provider affiliations).failures.map Prod.fst ∧
        ∃ chain, provider b = .ok chain ∧ Mentions chain i) ∧
    ∀ f e, scoreThrough provider f = .ok e →
      let s := Snapshot.take provider f.affiliations
      ∀ a err, (a, err) ∈ s.failures →
        (s.hierarchy.contains a = false →
          (∀ c, (c, a) ∈ f.pairs → ⟨c, a, err.exclusionReason⟩ ∈ e.excluded) ∧
          ∀ p ∈ e.calculation.institutions, ∀ x ∈ p.entries, x.affiliation ≠ a) ∧
        (s.hierarchy.contains a = true →
          (∀ x ∈ e.excluded, x.affiliation ≠ a) ∧
          ∀ p ∈ e.calculation.institutions, s.hierarchy.root? a = some p.institution →
            ∀ c, (c, a) ∈ f.pairs → (c, a) ∈ p.entries.map CreatorPoints.pair) := by
  refine ⟨fun affiliations i => Snapshot.contains_take_iff, ?_⟩
  intro f e he s a err hfailed
  refine ⟨fun hcontains => ⟨fun c hc => ?_, fun p hp x hx hxa => ?_⟩,
    fun hcontains => ⟨fun x hx hxa => ?_, fun p hp hroot c hc => ?_⟩⟩
  · exact (mem_excluded_iff he hfailed _ rfl).2 ⟨hc, hcontains, rfl⟩
  · have hentry : (x.creator, a) ∈ p.entries.map CreatorPoints.pair :=
      List.mem_map.2 ⟨x, hx, Prod.ext rfl hxa⟩
    obtain ⟨-, hroot⟩ := (mem_entries_iff he hp).1 hentry
    rw [Hierarchy.contains_eq_false_iff.1 hcontains] at hroot
    cases hroot
  · obtain ⟨-, hnot, -⟩ := (mem_excluded_iff he hfailed x hxa).1 hx
    rw [hcontains] at hnot
    cases hnot
  · exact (mem_entries_iff he hp).2 ⟨hc, hroot⟩

/-- The registry does not deliver an organization that another one names as its part: the snapshot
contains it, nothing is left out, and points are credited through it. -/
theorem credited_failed_part :
    let provider : OrganizationProvider := fun id =>
      if id = ⟨"b"⟩ then .ok [⟨⟨"b"⟩, none, [⟨"a"⟩]⟩] else .error (.unavailable "down")
    let f : PublicationFacts :=
      ⟨⟨"p"⟩, .academicArticle, ⟨"j", .journal, .levelOne⟩,
        [⟨.verified "x", [⟨"a"⟩, ⟨"b"⟩]⟩], by decide⟩
    let s := Snapshot.take provider f.affiliations
    (⟨"a"⟩, .unavailable "down") ∈ s.failures ∧ s.hierarchy.contains ⟨"a"⟩ = true ∧
      ∃ e, scoreThrough provider f = .ok e ∧ e.excluded = [] ∧
        ∃ p ∈ e.calculation.institutions, ∃ x ∈ p.entries,
          x.affiliation = ⟨"a"⟩ ∧ 0 < x.points.coefficient := by
  intro provider f s
  have hscore : (scoreThrough provider f).toOption.map (fun e => (e.excluded,
      decide (∃ p ∈ e.calculation.institutions, ∃ x ∈ p.entries,
        x.affiliation = ⟨"a"⟩ ∧ 0 < x.points.coefficient))) = some ([], true) := by
    decide +kernel
  obtain ⟨e, he, hseen⟩ := Option.map_eq_some_iff.1 hscore
  obtain ⟨hexcluded, hcredited⟩ := Prod.mk.inj hseen
  exact ⟨by decide +kernel, by decide +kernel, e, toOption_eq_some_iff.1 he, hexcluded,
    of_decide_eq_true hcredited⟩

end PublicationIndicator
