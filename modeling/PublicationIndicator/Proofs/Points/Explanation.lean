import PublicationIndicator.Proofs.Cli.Scoring
import PublicationIndicator.Proofs.Points.Failures
import PublicationIndicator.Proofs.Service.Reevaluation

/-!
# PublicationIndicator.Proofs.Points.Explanation — why an affiliation is left out

An affiliation that a snapshot does not contain has failed where it was first asked for, since the chain
of an organization has its record (`Snapshot.exists_fails`), and what a snapshot reports about it is that
failure and nothing else.  So every affiliation that a score leaves out comes with the failure of its own
chain for a reason, however the records of the registry contradict each other (`excluded_explained`).
-/

namespace PublicationIndicator

/-! ### Where a failure comes from -/

namespace Snapshot

/-- What a snapshot reports about an affiliation. -/
def failuresOf (s : Snapshot) (a : OrganizationId) : List FetchError :=
  (s.failures.filter fun y => y.1 = a).map Prod.snd

variable {provider : OrganizationProvider} {s : Snapshot} {a b : OrganizationId} {e : FetchError}
  {affiliations earlier later todo : List OrganizationId}

theorem mem_failuresOf : e ∈ s.failuresOf a ↔ (a, e) ∈ s.failures := by
  rw [failuresOf, List.mem_map]
  constructor
  · rintro ⟨⟨b, e⟩, hy, rfl⟩
    obtain ⟨hmem, hb⟩ := List.mem_filter.1 hy
    obtain rfl : b = a := by simpa using hb
    exact hmem
  · intro hmem
    exact ⟨(a, e), List.mem_filter.2 ⟨hmem, by simp⟩, rfl⟩

theorem failuresOf_add_of_fails (h : Fails provider s a e) :
    (s.add provider a).failuresOf a = s.failuresOf a ++ [e] := by
  rw [add_of_fails h, failuresOf, List.filter_append, List.map_append]
  simp [failuresOf]

/-- Nothing is reported about an affiliation when another one is asked for. -/
theorem failuresOf_add_of_ne (hne : b ≠ a) : (s.add provider b).failuresOf a = s.failuresOf a := by
  obtain ⟨e, he⟩ | ⟨_, h, -, -, hadd⟩ := fails_or_extends provider s b
  · rw [add_of_fails he, failuresOf, List.filter_append, List.map_append]
    simp [failuresOf, hne]
  · rw [hadd]
    rfl

theorem failuresOf_foldl_add (ha : a ∉ todo) :
    (todo.foldl (add provider) s).failuresOf a = s.failuresOf a := by
  induction todo generalizing s with
  | nil => rfl
  | cons b todo ih =>
    rw [List.mem_cons, not_or] at ha
    rw [List.foldl_cons, ih ha.2, failuresOf_add_of_ne (Ne.symm ha.1)]

/-- Nothing is reported about an affiliation that is not asked for. -/
theorem failuresOf_take_of_not_mem (ha : a ∉ affiliations) :
    (take provider affiliations).failuresOf a = [] := by
  rw [take_eq_foldl, failuresOf_foldl_add (mt mem_firstSeen.1 ha)]
  rfl

/-- What is reported about an affiliation is reported where it is first asked for. -/
theorem failuresOf_take (hfirst : a ∉ earlier) :
    (take provider (earlier ++ a :: later)).failuresOf a =
      ((take provider earlier).add provider a).failuresOf a := by
  obtain ⟨new, hnew⟩ := exists_firstSeen_append (earlier ++ [a]) later
  rw [firstSeen_concat, if_neg (mt mem_firstSeen.1 hfirst), List.append_assoc,
    List.singleton_append] at hnew
  have hn := nodup_firstSeen (earlier ++ a :: later)
  rw [hnew, List.nodup_append] at hn
  have hnot : a ∉ new := fun hmem => hn.2.2 a (by simp) a hmem rfl
  rw [take_eq_foldl, hnew, List.foldl_append, failuresOf_foldl_add hnot, List.foldl_append,
    ← take_eq_foldl]
  rfl

/-- An affiliation that is asked for and not contained has failed where it was first asked for, if the
provider never delivers a chain without it, and the failure is reported once. -/
theorem exists_fails (hself : ∀ chain, provider a = .ok chain → Mentions chain a)
    (ha : a ∈ affiliations) (hout : (take provider affiliations).hierarchy.contains a = false) :
    ∃ earlier later e, affiliations = earlier ++ a :: later ∧ a ∉ earlier ∧
      Fails provider (take provider earlier) a e ∧
      (take provider affiliations).failuresOf a = [e] := by
  obtain ⟨earlier, later, rfl, hfirst⟩ := List.eq_append_cons_of_mem ha
  have hnone : (take provider earlier).failuresOf a = [] := failuresOf_take_of_not_mem hfirst
  obtain ⟨e, hfails⟩ | ⟨chain, h, hchain, -, hadd⟩ :=
    fails_or_extends provider (take provider earlier) a
  · refine ⟨earlier, later, e, rfl, hfirst, hfails, ?_⟩
    rw [failuresOf_take hfirst, failuresOf_add_of_fails hfails, hnone, List.nil_append]
  · -- an accepted chain is shown, and so the affiliation would be contained
    have hnot : a ∉ (take provider (earlier ++ a :: later)).failures.map Prod.fst := by
      intro hmem
      obtain ⟨⟨b, e⟩, hy, rfl⟩ := List.mem_map.1 hmem
      have hreported := mem_failuresOf.2 hy
      have hsame : ((take provider earlier).add provider b).failuresOf b = [] := by
        rw [hadd]
        exact hnone
      rw [failuresOf_take hfirst, hsame] at hreported
      cases hreported
    have hin := contains_take_iff.2 ⟨a, ha, hnot, chain, hchain, hself chain hchain⟩
    rw [hout] at hin
    cases hin

end Snapshot

/-- Whatever records a registry is made of, the chain of an organization mentions it. -/
theorem OrganizationRegistry.mentions_of_fetch {os chain : List Organization} {a : OrganizationId}
    (h : (ofOrganizations os).fetch a = .ok chain) : Mentions chain a := by
  obtain ⟨o, ho, hrecord⟩ := exists_record_of_fetch h
  exact ⟨o, ho, .inl ((reflects_ofOrganizations os).id_eq hrecord)⟩

/-! ### Explanations -/

/-- The reason says, in words, how the affiliation's own chain failed: an organization in it has no record,
or the chain contradicts what was linked before the affiliation was asked for. -/
inductive Explains (registry : OrganizationRegistry) (affiliations : List OrganizationId)
    (a : OrganizationId) : FetchError → ExclusionReason → Prop
  | undelivered {missing} (hfetch : registry.fetch a = .error (.notFound missing))
      (hrecord : registry.records.get? missing = none) :
      Explains registry affiliations a (.notFound missing)
        (.fetchFailed (FetchError.notFound missing).message)
  | inconsistent {earlier later chain conflict} (hsplit : affiliations = earlier ++ a :: later)
      (hfirst : a ∉ earlier) (hfetch : registry.fetch a = .ok chain)
      (hlink : (Snapshot.take registry.fetch earlier).hierarchy.extend chain = .error conflict) :
      Explains registry affiliations a (.inconsistent conflict)
        (.inconsistentHierarchy conflict.message)

/-- The affiliation is among the failures of the snapshot, once, and this failure is the reason. -/
def ExcludedAffiliation.Explained (x : ExcludedAffiliation) (registry : OrganizationRegistry)
    (f : PublicationFacts) : Prop :=
  ∃ err, (Snapshot.take registry.fetch f.affiliations).failuresOf x.affiliation = [err] ∧
    Explains registry f.affiliations x.affiliation err x.reason

/-- What is left out is an affiliation of a creator that the snapshot does not contain. -/
theorem mem_affiliations_of_mem_excluded {provider : OrganizationProvider} {f : PublicationFacts}
    {e : PointEvaluation} (he : scoreThrough provider f = .ok e) {x : ExcludedAffiliation}
    (hx : x ∈ e.excluded) : x.affiliation ∈ f.affiliations ∧
      (Snapshot.take provider f.affiliations).hierarchy.contains x.affiliation = false := by
  obtain ⟨e', he', rfl⟩ := exists_score_of_scoreThrough he
  obtain ⟨-, -, -, -, -, hexcluded, -⟩ := exists_of_score he'
  rw [PointEvaluation.attribute, hexcluded, List.mem_map] at hx
  obtain ⟨y, hy, hyx⟩ := hx
  have hsame : y.affiliation = x.affiliation := by
    rw [← hyx]
    split <;> rfl
  obtain ⟨ha, hids, -⟩ := mem_unresolved hy
  rw [hsame] at ha hids
  refine ⟨ha, ?_⟩
  rw [← Bool.not_eq_true, Hierarchy.contains_iff]
  exact hids

/-- What a score leaves out is explained. -/
theorem explained_of_scoreThrough {os : List Organization} {f : PublicationFacts} {e : PointEvaluation}
    (he : scoreThrough (OrganizationRegistry.ofOrganizations os).fetch f = .ok e)
    {x : ExcludedAffiliation} (hx : x ∈ e.excluded) :
    x.Explained (OrganizationRegistry.ofOrganizations os) f := by
  obtain ⟨ha, hout⟩ := mem_affiliations_of_mem_excluded he hx
  obtain ⟨earlier, later, err, hsplit, hfirst, hfails, hreported⟩ :=
    Snapshot.exists_fails (fun _ => OrganizationRegistry.mentions_of_fetch) ha hout
  have hmem : (x.affiliation, err) ∈ (Snapshot.take
      (OrganizationRegistry.ofOrganizations os).fetch f.affiliations).failures := by
    rw [← Snapshot.mem_failuresOf, hreported]
    exact List.mem_singleton_self err
  obtain ⟨-, -, hreason⟩ := (mem_excluded_iff he hmem x rfl).1 hx
  refine ⟨err, hreported, ?_⟩
  rw [hreason]
  cases hfails with
  | undelivered hfetch =>
    -- the registry has no other failure than a missing record
    obtain ⟨missing, rfl, hrecord⟩ := OrganizationRegistry.exists_missing_of_chainFrom hfetch
    exact .undelivered hfetch hrecord
  | inconsistent hfetch hlink => exact .inconsistent hsplit hfirst hfetch hlink

/-- Of whatever records a registry is made, and whatever store an evaluation works on: each affiliation
that a score or an evaluation leaves out is among the failures of the snapshot, once, and its reason says
how its own chain failed. -/
theorem excluded_explained (os : List Organization) (f : PublicationFacts) :
    let registry := OrganizationRegistry.ofOrganizations os
    (∀ e, Cli.scoreFacts f registry = .ok e →
      ∀ x ∈ e.excluded, x.Explained registry f ∧ x.reason ≠ .notInSnapshot) ∧
    ∀ {σ : Type} (backend : Session.Backend σ) (attempts : Nat) (w : σ) (report : Service.EvaluationReport),
      ((Service.evaluate registry.fetch attempts f).run backend w).1 = .ok report →
      ∀ x ∈ report.excluded, x.Explained registry f ∧ x.reason ≠ .notInSnapshot := by
  intro registry
  have hexplained : ∀ e, scoreThrough registry.fetch f = .ok e →
      ∀ x ∈ e.excluded, x.Explained registry f ∧ x.reason ≠ .notInSnapshot := by
    intro e he x hx
    have hx' := explained_of_scoreThrough he hx
    refine ⟨hx', fun hreason => ?_⟩
    obtain ⟨err, -, hexplains⟩ := hx'
    rw [hreason] at hexplains
    cases hexplains
  refine ⟨fun e he => hexplained e (Cli.scoreFacts_eq_ok_iff.1 he), ?_⟩
  intro σ backend attempts w report hreport
  have hpath := Session.path_run backend (Service.evaluate registry.fetch attempts f) w
  rw [hreport] at hpath
  obtain ⟨e, he, hexcluded, -⟩ := Service.exists_of_path_evaluate hpath
  rw [hexcluded]
  exact hexplained e he

-- a second parent, a circle, a parent without a record, and an organization that is not registered
example :
    let registry := OrganizationRegistry.ofOrganizations
      [⟨⟨"a"⟩, none, [⟨"c"⟩]⟩, ⟨⟨"b"⟩, none, [⟨"c"⟩]⟩, .childOf ⟨"d"⟩ ⟨"e"⟩, .childOf ⟨"e"⟩ ⟨"d"⟩,
        .childOf ⟨"f"⟩ ⟨"g"⟩]
    let f : PublicationFacts := ⟨⟨"p"⟩, .academicArticle, ⟨"j", .journal, .levelOne⟩,
      [⟨.verified "x", [⟨"a"⟩, ⟨"b"⟩, ⟨"d"⟩, ⟨"f"⟩, ⟨"h"⟩]⟩], by decide⟩
    (scoreThrough registry.fetch f).toOption.map
        (fun e => e.excluded.map fun x => (x.affiliation, x.reason)) = some [
      (⟨"b"⟩, .inconsistentHierarchy "organization c has conflicting parents a and b"),
      (⟨"d"⟩, .inconsistentHierarchy "organization d is part of its own ancestry"),
      (⟨"f"⟩, .fetchFailed "organization g not found in registry"),
      (⟨"h"⟩, .fetchFailed "organization h not found in registry")] := by
  decide +kernel

end PublicationIndicator
