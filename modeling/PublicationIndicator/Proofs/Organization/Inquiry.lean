import PublicationIndicator.Organization.Snapshot
import PublicationIndicator.Proofs.Publication.FirstSeen

/-!
# PublicationIndicator.Proofs.Organization.Inquiry — what a snapshot asks for

An affiliation that is asked for fails, or its chain is taken in (`Snapshot.fails_or_extends`).

Whatever else it takes to ask, a snapshot asks for each affiliation once, in the order in which they are
first named (`Snapshot.gather_eq`).  With a provider that always answers the same it is the fold of their
answers (`Snapshot.take_eq_foldl`), so that what each of them keeps holds in the end
(`Snapshot.take_induction`).  A provider that writes down what it is asked for is left with the list of
them (`Snapshot.gather_recorded`).
-/

namespace PublicationIndicator

theorem SortedSet.ofList_concat {κ : Type} [Keyed κ] (l : List κ) (a : κ) :
    SortedSet.ofList (l ++ [a]) = (SortedSet.ofList l).insert a := by
  rw [ofList, List.foldl_append]
  rfl

namespace Snapshot

/-! ### One affiliation -/

/-- Why an affiliation fails that is asked for when `s` is put together: it is not delivered, or its chain
does not go together with what is linked. -/
inductive Fails (provider : OrganizationProvider) (s : Snapshot) (a : OrganizationId) :
    FetchError → Prop
  | undelivered {e} (ha : provider a = .error e) : Fails provider s a e
  | inconsistent {chain conflict} (ha : provider a = .ok chain)
      (hc : s.hierarchy.extend chain = .error conflict) : Fails provider s a (.inconsistent conflict)

section

variable {provider : OrganizationProvider} {s : Snapshot} {a : OrganizationId}

/-- A failure is reported and changes nothing else. -/
theorem add_of_fails {e : FetchError} (h : Fails provider s a e) :
    s.add provider a = { s with failures := s.failures ++ [(a, e)] } := by
  unfold add receive
  cases h with
  | undelivered ha => rw [ha]
  | inconsistent ha hc =>
    rw [ha]
    dsimp only
    rw [hc]

/-- A chain that goes together with what is linked is taken in. -/
theorem add_of_extend {chain : List Organization} {h : Hierarchy} (ha : provider a = .ok chain)
    (hh : s.hierarchy.extend chain = .ok h) : s.add provider a = { s with hierarchy := h } := by
  unfold add receive
  rw [ha]
  dsimp only
  rw [hh]

theorem fails_or_extends (provider : OrganizationProvider) (s : Snapshot) (a : OrganizationId) :
    (∃ e, Fails provider s a e) ∨ ∃ chain h, provider a = .ok chain ∧
      s.hierarchy.extend chain = .ok h ∧ s.add provider a = { s with hierarchy := h } := by
  cases ha : provider a with
  | error e => exact .inl ⟨e, .undelivered ha⟩
  | ok chain =>
    cases hh : s.hierarchy.extend chain with
    | error conflict => exact .inl ⟨_, .inconsistent ha hh⟩
    | ok h => exact .inr ⟨chain, h, rfl, hh, add_of_extend ha hh⟩

end

/-! ### All of them -/

section

variable {m : Type → Type} [Monad m] [LawfulMonad m]
  (fetch : OrganizationId → m (Except FetchError (List Organization)))
  (affiliations : List OrganizationId)

/-- An affiliation is asked for where it is first named, and nowhere else. -/
theorem foldlM_ask : affiliations.foldlM (Inquiry.ask fetch) ⟨.empty, empty⟩ =
    (firstSeen affiliations).foldlM (fun s a => s.receive a <$> fetch a) empty >>= fun s =>
      pure ⟨.ofList (firstSeen affiliations), s⟩ := by
  induction affiliations using List.reverseRecOn with
  | nil =>
    rw [List.foldlM_nil, firstSeen, List.foldl_nil, List.foldlM_nil, pure_bind]
    rfl
  | append_singleton l a ih =>
    rw [List.foldlM_append, ih, bind_assoc, firstSeen_concat]
    simp only [pure_bind, List.foldlM_cons, List.foldlM_nil, bind_pure]
    by_cases ha : a ∈ firstSeen l
    · simp [Inquiry.ask, SortedSet.mem_ofList, ha]
    · simp [Inquiry.ask, SortedSet.mem_ofList, SortedSet.ofList_concat, ha]

theorem gather_eq : gather fetch affiliations =
    (firstSeen affiliations).foldlM (fun s a => s.receive a <$> fetch a) empty := by
  rw [gather, foldlM_ask, bind_assoc]
  simp only [pure_bind, bind_pure]

end

variable (provider : OrganizationProvider) (affiliations : List OrganizationId)

theorem take_eq_foldl : take provider affiliations =
    (firstSeen affiliations).foldl (add provider) empty := by
  rw [take, gather_eq]
  exact List.idRun_foldlM

/-- What holds before anything is asked for, and stays true with each affiliation that is new, holds of a
snapshot. -/
theorem take_induction {P : List OrganizationId → Snapshot → Prop} (hempty : P [] empty)
    (hadd : ∀ done s a, a ∉ done → P done s → P (done ++ [a]) (s.add provider a)) :
    P (firstSeen affiliations) (take provider affiliations) := by
  have hn := nodup_firstSeen affiliations
  rw [take_eq_foldl]
  generalize firstSeen affiliations = l at hn
  induction l using List.reverseRecOn with
  | nil => exact hempty
  | append_singleton l a ih =>
    obtain ⟨hl, -, hne⟩ := List.nodup_append.1 hn
    have ha : a ∉ l := fun hmem => hne a hmem a (List.mem_singleton_self a) rfl
    rw [List.foldl_append, List.foldl_cons, List.foldl_nil]
    exact hadd l _ a ha (ih hl)

/-! ### Keeping a record -/

/-- Answers as the provider does, and writes down what was asked for. -/
def recorded (id : OrganizationId) :
    StateM (List OrganizationId) (Except FetchError (List Organization)) := do
  modify fun asked => asked ++ [id]
  pure (provider id)

/-- A provider is asked for each affiliation once, in the order in which they are first named. -/
theorem gather_recorded : (gather (recorded provider) affiliations).run [] =
    (take provider affiliations, firstSeen affiliations) := by
  rw [gather_eq, take_eq_foldl]
  generalize firstSeen affiliations = l
  induction l using List.reverseRecOn with
  | nil => rfl
  | append_singleton l a ih =>
    rw [List.foldlM_append, StateT.run_bind, ih, List.foldl_append]
    rfl

end Snapshot

end PublicationIndicator
