import PublicationIndicator.Proofs.Organization.Lineage
import PublicationIndicator.Proofs.Points.Soundness

/-!
# PublicationIndicator.Proofs.Points.Refusal — which facts earn no points

`PublicationFacts.Refused` says for which reason facts earn no points.  Every reason but the first stands
only where those before it do not.  Facts are refused for that reason, and where there is none they earn
points: the check finds nothing wrong with what was calculated (`score_decided`).
-/

namespace PublicationIndicator

namespace PublicationFacts

/-- The channel has no level, or one that gives no points. -/
def Unrated (f : PublicationFacts) : Prop :=
  f.channel.scientificValue = .unassigned ∨ f.channel.scientificValue = .levelZero

/-- The channel has a level that gives points, and is of a kind that the category goes with. -/
def Publishable (f : PublicationFacts) : Prop :=
  ¬ f.Unrated ∧ f.instanceType.accepts f.channel.channelType = true

/-- The reason for which facts earn no points. -/
inductive Refused (f : PublicationFacts) (h : Hierarchy) : InvalidFacts → Prop
  | channelNotRated (hlevel : f.Unrated) :
      Refused f h (.channelNotRated f.channel.scientificValue)
  | incompatibleChannel (hlevel : ¬ f.Unrated)
      (htype : f.instanceType.accepts f.channel.channelType = false) :
      Refused f h (.incompatibleChannel f.instanceType f.channel.channelType)
  | blankCreator (hchannel : f.Publishable) {i : Nat} (hi : i < f.creators.length)
      (hblank : f.creators[i].identity.isBlank = true)
      (hfirst : ∀ j (hj : j < i), ¬ f.creators[j].identity.isBlank = true) :
      Refused f h (.blankCreator i)
  | noResolvableCreators (hchannel : f.Publishable)
      (hnamed : ∀ c ∈ f.creators, c.identity.isBlank = false)
      (hout : ∀ c ∈ f.creators, ∀ a ∈ c.affiliations, h.contains a = false) :
      Refused f h .noResolvableCreators

variable {f : PublicationFacts} {h : Hierarchy} {r : InvalidFacts}

theorem isRated_iff : f.channel.scientificValue.isRated = true ↔ ¬ f.Unrated := by
  unfold Unrated
  cases f.channel.scientificValue <;> simp [ScientificValue.isRated]

/-- Nobody has a share if no affiliation stands in the hierarchy. -/
theorem sharers_eq_nil_iff :
    f.sharers h = [] ↔ ∀ c ∈ f.creators, ∀ a ∈ c.affiliations, h.contains a = false := by
  rw [sharers, List.filter_eq_nil_iff]
  constructor
  · intro hall c hc a ha
    have haff : a ∈ f.affiliationsOf c.identity := by
      rw [affiliationsOf, List.mem_toFinset, List.mem_flatMap]
      exact ⟨c, List.mem_filter.2 ⟨hc, by simp⟩, ha⟩
    obtain ⟨m, hm, -, ham⟩ := exists_merged haff
    have hnil : m.roots h = [] := by simpa using hall m hm
    rw [Hierarchy.contains_eq_false_iff, Option.eq_none_iff_forall_ne_some]
    intro i hi
    have hroot : i ∈ m.roots h := Creator.mem_roots.2 ⟨a, ham, hi⟩
    rw [hnil] at hroot
    cases hroot
  · intro hall m hm
    have hnil : m.roots h = [] := by
      refine List.eq_nil_iff_forall_not_mem.2 fun i hi => ?_
      obtain ⟨a, ha, hroot⟩ := Creator.mem_roots.1 hi
      obtain ⟨c, hc, hca⟩ := mem_affiliations.1 (mem_affiliations_of_mem_merged hm ha)
      rw [Hierarchy.contains_eq_false_iff.1 (hall c hc a hca)] at hroot
      cases hroot
    simp [hnil]

theorem Refused.refusal? (hr : f.Refused h r) : f.refusal? h = some r := by
  unfold PublicationFacts.refusal?
  cases hr with
  | channelNotRated hlevel => rw [if_pos fun hrated => isRated_iff.1 hrated hlevel]
  | incompatibleChannel hlevel htype =>
    rw [if_neg (not_not.2 (isRated_iff.2 hlevel)), if_pos (by simp [htype])]
  | blankCreator hchannel hi hblank hfirst =>
    have hindex : f.creators.findIdx? (fun c => c.identity.isBlank) = some _ :=
      List.findIdx?_eq_some_iff_getElem.2 ⟨hi, hblank, hfirst⟩
    rw [if_neg (not_not.2 (isRated_iff.2 hchannel.1)), if_neg (not_not.2 hchannel.2), hindex]
  | noResolvableCreators hchannel hnamed hout =>
    rw [if_neg (not_not.2 (isRated_iff.2 hchannel.1)), if_neg (not_not.2 hchannel.2),
      List.findIdx?_eq_none_iff.2 hnamed]
    exact if_pos (sharers_eq_nil_iff.2 hout)

theorem refused_of_refusal? (hr : f.refusal? h = some r) : f.Refused h r := by
  unfold PublicationFacts.refusal? at hr
  split at hr
  · rename_i hrated
    cases hr
    exact .channelNotRated (not_not.1 fun hlevel => hrated (isRated_iff.2 hlevel))
  rename_i hrated
  have hlevel := isRated_iff.1 (not_not.1 hrated)
  split at hr
  · rename_i htype
    cases hr
    exact .incompatibleChannel hlevel (Bool.not_eq_true _ ▸ htype)
  rename_i htype
  have hchannel : f.Publishable := ⟨hlevel, not_not.1 htype⟩
  split at hr
  · rename_i i hindex
    cases hr
    obtain ⟨hi, hblank, hfirst⟩ := List.findIdx?_eq_some_iff_getElem.1 hindex
    exact .blankCreator hchannel hi hblank hfirst
  · rename_i hindex
    split at hr
    · rename_i hnil
      cases hr
      exact .noResolvableCreators hchannel (List.findIdx?_eq_none_iff.1 hindex)
        (sharers_eq_nil_iff.1 hnil)
    · cases hr

/-- The reason for which facts are refused is the first that applies. -/
theorem refusal?_eq_some_iff : f.refusal? h = some r ↔ f.Refused h r :=
  ⟨refused_of_refusal?, Refused.refusal?⟩

/-- Facts that are refused for no reason name somebody with an affiliation in the hierarchy. -/
theorem refusal?_eq_none_iff : f.refusal? h = none ↔ f.Publishable ∧
    (∀ c ∈ f.creators, c.identity.isBlank = false) ∧
      ∃ c ∈ f.creators, ∃ a ∈ c.affiliations, h.contains a = true := by
  have hout : (∃ c ∈ f.creators, ∃ a ∈ c.affiliations, h.contains a = true) ↔ f.sharers h ≠ [] := by
    rw [ne_eq, sharers_eq_nil_iff]
    simp
  rw [hout, refusal?, Publishable, ← isRated_iff, ← List.findIdx?_eq_none_iff]
  by_cases hrated : f.channel.scientificValue.isRated = true
  · by_cases htype : f.instanceType.accepts f.channel.channelType = true
    · cases hindex : f.creators.findIdx? (fun c => c.identity.isBlank) with
      | some i => simp [hrated, htype]
      | none => by_cases hnil : f.sharers h = [] <;> simp [hrated, htype, hnil]
    · simp [hrated, htype]
  · simp [hrated]

end PublicationFacts

/-- Facts of which 32 bits count the pairs in the hierarchy are refused for the first reason that applies,
and earn points if there is none.  What is calculated passes the check. -/
theorem score_decided {f : PublicationFacts} (h : Hierarchy) (hcount : (f.resolvable h).card < 2 ^ 32) :
    (∀ defect, score f h ≠ .error (.defect defect)) ∧
    (∀ e, calculate f h = .ok e → e.calculation.check = .ok ()) ∧
    (∀ r, score f h = .error (.invalidFacts r) ↔ f.Refused h r) ∧
    ((∃ e, score f h = .ok e) ↔ f.Publishable ∧
      (∀ c ∈ f.creators, c.identity.isBlank = false) ∧
      ∃ c ∈ f.creators, ∃ a ∈ c.affiliations, h.contains a = true) := by
  rw [← PublicationFacts.refusal?_eq_none_iff]
  simp only [← PublicationFacts.refusal?_eq_some_iff]
  rcases score_cases f h hcount with ⟨r, hr, herr⟩ | ⟨hnone, e, he, hexact⟩
  · rw [hr, herr]
    refine ⟨by simp, fun e hcalc => ?_, fun r' => ?_, by simp⟩
    · rcases calculate_cases f h with ⟨_, -, hcalc'⟩ | ⟨_, hnone, -⟩
      · rw [hcalc] at hcalc'
        cases hcalc'
      · rw [hr] at hnone
        cases hnone
    · simp
  · rw [hnone, he]
    refine ⟨by simp, fun e' hcalc => ?_, by simp, by simp⟩
    -- there is no score without the check
    unfold score at he
    obtain ⟨_, hcalc', hcheck⟩ := bind_eq_ok_iff.1 he
    cases hcalc.symm.trans hcalc'
    obtain ⟨⟨⟩, hcheck, -⟩ := bind_eq_ok_iff.1 hcheck
    exact hcheck

/-- A blank creator behind one who is not, in a channel that the category goes with. -/
theorem score_decided_blank_creator :
    let id (s : String) : OrganizationId := ⟨s⟩
    let h : Hierarchy := ⟨⟨[id "a.1", id "a"], [(id "a.1", id "a")]⟩,
      [.childOf (id "a.1") (id "a")], by decide⟩
    let f : PublicationFacts :=
      ⟨⟨"p"⟩, .academicCommentary, ⟨"c", .series, .levelOne⟩,
        [⟨.verified "x", [id "a.1"]⟩, ⟨.unverified " ", [id "?"]⟩, ⟨.verified "", []⟩],
        by decide⟩
    (f.resolvable h).card < 2 ^ 32 ∧ score f h = .error (.invalidFacts (.blankCreator 1)) := by
  intro id h f
  have hcount : (f.resolvable h).card < 2 ^ 32 := by decide
  obtain ⟨-, -, hrefused, -⟩ := score_decided h hcount
  refine ⟨hcount, (hrefused _).2 (.blankCreator ?_ (by decide) (by decide) ?_)⟩
  · exact ⟨by simp [PublicationFacts.Unrated, f], by decide⟩
  · decide

end PublicationIndicator
