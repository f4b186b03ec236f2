import PublicationIndicator.Proofs.Organization.Declaration
import PublicationIndicator.Proofs.Organization.Inquiry

/-!
# PublicationIndicator.Proofs.Organization.Greedy — which chains a snapshot takes

A snapshot takes each chain that makes a hierarchy together with the chains taken before, and no other
(`Greedy`).  Though it adds them one at a time, its hierarchy is the one that all of them declare at once,
and the others leave no trace in it (`Snapshot.greedy_take`).
-/

namespace PublicationIndicator

/-! ### The greedy choice -/

/-- Where the chains `taken` were taken before, going through `todo` takes the chains `accepted` that make
a hierarchy with those taken so far, and reports `failures` of the other affiliations. -/
inductive Greedy (provider : OrganizationProvider) : (taken : List (List Organization)) →
    (todo : List OrganizationId) → (accepted : List (List Organization)) →
    (failures : List (OrganizationId × FetchError)) → Prop
  | nil {taken} : Greedy provider taken [] [] []
  | undelivered {taken a todo accepted failures e} (ha : provider a = .error e)
      (rest : Greedy provider taken todo accepted failures) :
      Greedy provider taken (a :: todo) accepted ((a, e) :: failures)
  | inconsistent {taken a todo accepted failures chain e} (ha : provider a = .ok chain)
      (he : Hierarchy.ofOrganizations (taken.flatten ++ chain) = .error e)
      (rest : Greedy provider taken todo accepted failures) :
      Greedy provider taken (a :: todo) accepted ((a, .inconsistent e) :: failures)
  | takes {taken a todo accepted failures chain h} (ha : provider a = .ok chain)
      (hh : Hierarchy.ofOrganizations (taken.flatten ++ chain) = .ok h)
      (rest : Greedy provider (taken ++ [chain]) todo accepted failures) :
      Greedy provider taken (a :: todo) (chain :: accepted) failures

namespace Greedy

variable {provider : OrganizationProvider} {todo : List OrganizationId}
  {taken accepted accepted' : List (List Organization)}
  {failures failures' : List (OrganizationId × FetchError)}

/-- There is one greedy choice at most. -/
theorem unique (h : Greedy provider taken todo accepted failures)
    (h' : Greedy provider taken todo accepted' failures') :
    accepted' = accepted ∧ failures' = failures := by
  induction h generalizing accepted' failures' with
  | nil =>
    cases h'
    exact ⟨rfl, rfl⟩
  | undelivered ha _ ih => cases h' <;> grind
  | inconsistent ha he _ ih => cases h' <;> grind
  | takes ha hh _ ih => cases h' <;> grind

/-- Each failure is of one of the affiliations, in their order. -/
theorem sublist (h : Greedy provider taken todo accepted failures) :
    (failures.map Prod.fst).Sublist todo := by
  induction h with
  | nil => exact .slnil
  | undelivered _ _ ih | inconsistent _ _ _ ih => exact ih.cons_cons _
  | takes _ _ _ ih => exact ih.cons _

end Greedy

namespace Snapshot

variable (provider : OrganizationProvider) {s : Snapshot} {taken : List (List Organization)}
  {c p : OrganizationId}

/-- An affiliation is not delivered, or its chain is refused or taken, as if it came at once with those
taken before. -/
theorem add_cases (hs : Hierarchy.ofOrganizations taken.flatten = .ok s.hierarchy)
    (a : OrganizationId) :
    (∃ e, provider a = .error e ∧
      s.add provider a = { s with failures := s.failures ++ [(a, e)] }) ∨
    (∃ chain e, provider a = .ok chain ∧
      Hierarchy.ofOrganizations (taken.flatten ++ chain) = .error e ∧
      s.add provider a = { s with failures := s.failures ++ [(a, .inconsistent e)] }) ∨
    ∃ chain h, provider a = .ok chain ∧
      Hierarchy.ofOrganizations (taken.flatten ++ chain) = .ok h ∧
      s.add provider a = { s with hierarchy := h } := by
  have happend := Hierarchy.ofOrganizations_append hs
  obtain ⟨e, hfails⟩ | ⟨chain, h, ha, hh, hadd⟩ := fails_or_extends provider s a
  · have hadd := add_of_fails hfails
    cases hfails with
    | undelivered ha => exact .inl ⟨e, ha, hadd⟩
    | inconsistent ha hc => exact .inr (.inl ⟨_, _, ha, (happend _).trans hc, hadd⟩)
  · exact .inr (.inr ⟨chain, h, ha, (happend chain).trans hh, hadd⟩)

/-- Adding chain after chain takes those of the greedy choice. -/
theorem exists_greedy (hs : Hierarchy.ofOrganizations taken.flatten = .ok s.hierarchy)
    (todo : List OrganizationId) : ∃ accepted failures,
      Greedy provider taken todo accepted failures ∧
      Hierarchy.ofOrganizations (taken ++ accepted).flatten =
        .ok (todo.foldl (add provider) s).hierarchy ∧
      (todo.foldl (add provider) s).failures = s.failures ++ failures := by
  induction todo generalizing taken s with
  | nil => exact ⟨[], [], .nil, by simpa using hs, by simp⟩
  | cons a todo ih =>
    rw [List.foldl_cons]
    obtain ⟨e, ha, hadd⟩ | ⟨chain, e, ha, he, hadd⟩ | ⟨chain, h, ha, hh, hadd⟩ :=
      add_cases provider hs a
    · rw [hadd]
      obtain ⟨accepted, failures, hgreedy, hhierarchy, hfailures⟩ :=
        ih (s := { s with failures := s.failures ++ [(a, e)] }) hs
      exact ⟨accepted, _, .undelivered ha hgreedy, hhierarchy, by simp [hfailures]⟩
    · rw [hadd]
      obtain ⟨accepted, failures, hgreedy, hhierarchy, hfailures⟩ :=
        ih (s := { s with failures := s.failures ++ [(a, .inconsistent e)] }) hs
      exact ⟨accepted, _, .inconsistent ha he hgreedy, hhierarchy, by simp [hfailures]⟩
    · have hos : Hierarchy.ofOrganizations (taken ++ [chain]).flatten = .ok h := by
        rw [List.flatten_append, List.flatten_singleton]
        exact hh
      rw [hadd]
      obtain ⟨accepted, failures, hgreedy, hhierarchy, hfailures⟩ :=
        ih (s := { s with hierarchy := h }) hos
      rw [List.append_assoc, List.singleton_append] at hhierarchy
      exact ⟨_, failures, .takes ha hh hgreedy, hhierarchy, hfailures⟩

/-! ### What is linked stays linked -/

theorem partOf_extend {h k : Hierarchy} {chain : List Organization} (hk : h.extend chain = .ok k)
    (hcp : h.forest.PartOf c p) : k.forest.PartOf c p := by
  have hadd := Forest.addAll_of_extend (Hierarchy.extend_eq_ok_iff.1 hk)
  have htakes := Forest.takes_addAll h.wellFormed hadd
  rw [Forest.partOf_iff h.wellFormed] at hcp
  rw [Forest.partOf_iff htakes.wellFormed, htakes.mem_links]
  exact .inl hcp

theorem partOf_add (a : OrganizationId) (hcp : s.hierarchy.forest.PartOf c p) :
    (s.add provider a).hierarchy.forest.PartOf c p := by
  obtain ⟨e, hfails⟩ | ⟨chain, h, -, hh, hadd⟩ := fails_or_extends provider s a
  · rw [add_of_fails hfails]
    exact hcp
  · rw [hadd]
    exact partOf_extend hh hcp

theorem partOf_foldl_add (todo : List OrganizationId) (hcp : s.hierarchy.forest.PartOf c p) :
    (todo.foldl (add provider) s).hierarchy.forest.PartOf c p := by
  induction todo generalizing s with
  | nil => exact hcp
  | cons a todo ih =>
    rw [List.foldl_cons]
    exact ih (partOf_add provider a hcp)

/-- A snapshot keeps the links that a snapshot of fewer affiliations has. -/
theorem partOf_take_append (earlier later : List OrganizationId)
    (hcp : (take provider earlier).hierarchy.forest.PartOf c p) :
    (take provider (earlier ++ later)).hierarchy.forest.PartOf c p := by
  obtain ⟨new, hnew⟩ := exists_firstSeen_append earlier later
  rw [take_eq_foldl] at hcp
  rw [take_eq_foldl, hnew, List.foldl_append]
  exact partOf_foldl_add provider new hcp

/-! ### Snapshots -/

/-- A snapshot asks for each affiliation once and takes the chains of the greedy choice, and these make
its hierarchy when they are put together at once.  It shows what they declare and nothing else, keeps what
is linked once, and reports each of the other affiliations once, in the order in which they are first
named. -/
theorem greedy_take (provider : OrganizationProvider) (affiliations : List OrganizationId) :
    let s := take provider affiliations
    (∃ accepted,
      (∀ chains failures, Greedy provider [] (firstSeen affiliations) chains failures ↔
        chains = accepted ∧ failures = s.failures) ∧
      Hierarchy.ofOrganizations accepted.flatten = .ok s.hierarchy ∧
      s.hierarchy.Shows accepted.flatten) ∧
    (s.failures.map Prod.fst).Sublist (firstSeen affiliations) ∧
    (s.failures.map Prod.fst).Nodup ∧
    (∀ earlier later, affiliations = earlier ++ later → ∀ c p,
      (take provider earlier).hierarchy.forest.PartOf c p → s.hierarchy.forest.PartOf c p) ∧
    (gather (recorded provider) affiliations).run [] = (s, firstSeen affiliations) := by
  intro s
  have hempty : Hierarchy.ofOrganizations ([] : List (List Organization)).flatten =
      .ok empty.hierarchy := rfl
  obtain ⟨accepted, failures, hgreedy, hhierarchy, hfailures⟩ :=
    exists_greedy provider hempty (firstSeen affiliations)
  rw [← take_eq_foldl] at hhierarchy hfailures
  obtain rfl : s.failures = failures := hfailures
  have hsublist := hgreedy.sublist
  refine ⟨⟨accepted, fun chains fs => ⟨hgreedy.unique, ?_⟩, hhierarchy,
    shows_of_ofOrganizations hhierarchy⟩, hsublist, (nodup_firstSeen affiliations).sublist hsublist,
    fun earlier later hsplit c p hcp => ?_, gather_recorded provider affiliations⟩
  · rintro ⟨rfl, rfl⟩
    exact hgreedy
  · have hkeeps := partOf_take_append provider earlier later hcp
    rwa [← hsplit] at hkeeps

end Snapshot

end PublicationIndicator
