import PublicationIndicator.Proofs.Organization.Inquiry
import PublicationIndicator.Proofs.Organization.Registry

/-!
# PublicationIndicator.Proofs.Organization.Snapshot — snapshots of a registry

A registry that reflects a hierarchy delivers the lineages in it, and these can be put together in any
order: `Snapshot.Pictures h done s` says that the snapshot `s` shows the lineages of the affiliations
`done` as they are in `h`, and has failed for those that `h` does not mention.  In the end every
affiliation has the top that it has in `h` (`Snapshot.Pictures.root?_eq`).
-/

namespace PublicationIndicator

namespace Snapshot

open Forest OrganizationRegistry

/-- `s` shows the lineages of `done` as they are in `h`, and has failed for what `h` does not mention. -/
structure Pictures (h : Hierarchy) (done : List OrganizationId) (s : Snapshot) : Prop where
  ids : s.hierarchy.forest.ids ⊆ h.forest.ids
  links : s.hierarchy.forest.links ⊆ h.forest.links
  mentioned : ∀ a ∈ done, a ∈ h.forest.ids → a ∈ s.hierarchy.forest.ids
  linked : ∀ a ∈ done, ∀ l, h.forest.Lineage a l → ∀ c ∈ l, ∀ p,
    (c, p) ∈ h.forest.links → (c, p) ∈ s.hierarchy.forest.links
  failures : s.failures = (done.filter fun a => ¬ h.contains a).map fun a => (a, .notFound a)

theorem pictures_empty (h : Hierarchy) : Pictures h [] empty where
  ids := fun _ ha => by cases ha
  links := fun _ hl => by cases hl
  mentioned := fun _ ha => by cases ha
  linked := fun _ ha => by cases ha
  failures := rfl

variable {h : Hierarchy} {r : OrganizationRegistry} {done : List OrganizationId} {s : Snapshot}
  {a : OrganizationId}

/-- An affiliation that is not mentioned is a failure. -/
theorem pictures_add_of_not_mem (hr : r.Reflects h.forest.ids h.forest.links)
    (hs : Pictures h done s) (ha : a ∉ h.forest.ids) : Pictures h (done ++ [a]) (s.add r.fetch a) := by
  rw [add_of_fails (.undelivered (hr.fetch_of_not_mem ha))]
  refine ⟨hs.ids, hs.links, ?_, ?_, ?_⟩
  · intro b hb hmem
    rcases List.mem_append.1 hb with hb | hb
    · exact hs.mentioned b hb hmem
    · rw [List.mem_singleton.1 hb] at hmem
      exact absurd hmem ha
  · intro b hb l hl c hc p hp
    rcases List.mem_append.1 hb with hb | hb
    · exact hs.linked b hb l hl c hc p hp
    · -- what is not mentioned has no parent and is its whole lineage
      rw [List.mem_singleton.1 hb] at hl
      have hnone : h.forest.parent? a = none :=
        (parent?_eq_none_iff h.wellFormed).2 fun q hq => ha (h.wellFormed.child_mem _ hq)
      rw [lineage_iff_of_none hnone] at hl
      rw [hl, List.mem_singleton] at hc
      rw [hc] at hp
      exact absurd (h.wellFormed.child_mem _ hp) ha
  · have hcontains : h.contains a = false := by
      rw [← Bool.not_eq_true, Hierarchy.contains_iff]
      exact ha
    simp [hs.failures, hcontains]

/-- The chain of an affiliation goes together with what the snapshot shows already. -/
theorem exists_extend_of_lineage (hr : r.Reflects h.forest.ids h.forest.links)
    (hs : Pictures h done s) {l : List OrganizationId} (hl : l ⊆ h.forest.ids) :
    ∃ k, s.hierarchy.extend (l.map r.recordOrBlank) = .ok k ∧
      k.forest.ids ⊆ h.forest.ids ∧ k.forest.links ⊆ h.forest.links ∧
      s.hierarchy.forest.Takes l (l.flatMap fun i => (r.recordOrBlank i).links) k.forest := by
  have hwf := s.hierarchy.wellFormed
  have hlinks : (l.flatMap fun i => (r.recordOrBlank i).links) ⊆ h.forest.links := by
    intro x hx
    obtain ⟨i, -, hx⟩ := List.mem_flatMap.1 hx
    exact hr.links_recordOrBlank i hx
  have hmap : (l.map r.recordOrBlank).flatMap Organization.links =
      l.flatMap fun i => (r.recordOrBlank i).links := List.flatMap_map _ _ l
  have hids : (l.map r.recordOrBlank).map Organization.id = l := by
    rw [List.map_map]
    exact List.map_id'' hr.recordOrBlank_id l
  have hlinkable : Linkable
      ((l.map r.recordOrBlank).flatMap Organization.links ++ s.hierarchy.forest.links) := by
    rw [hmap]
    exact h.linkable.mono (List.append_subset.2 ⟨hlinks, hs.links⟩)
  -- a part of what the hierarchy links can be taken in, and runs in no circle
  obtain ⟨g, hg⟩ := exists_addAll hwf hlinkable
  have htakes := takes_addAll hwf hg
  rw [hmap, hids] at htakes
  obtain ⟨hgids, hglinks⟩ := htakes.subset h.wellFormed hs.ids hs.links hl hlinks
  have hlineages := Hierarchy.exists_lineage_of_subset htakes.wellFormed hgids hglinks
  obtain ⟨k, hk, rfl⟩ := Hierarchy.exists_extend ((extend_eq_ok_iff hwf).2 ⟨hg, hlineages⟩)
  exact ⟨k, hk, hgids, hglinks, htakes⟩

/-- An affiliation that is mentioned is shown with its lineage. -/
theorem pictures_add_of_mem (hr : r.Reflects h.forest.ids h.forest.links)
    (hs : Pictures h done s) (ha : a ∈ h.forest.ids) : Pictures h (done ++ [a]) (s.add r.fetch a) := by
  obtain ⟨l, hl⟩ := h.exists_lineage ha
  obtain ⟨k, hk, hids, hlinks, htakes⟩ :=
    exists_extend_of_lineage hr hs (hl.subset_ids h.wellFormed ha)
  rw [add_of_extend (hr.fetch_of_lineage h.wellFormed hl ha) hk]
  refine ⟨hids, hlinks, ?_, ?_, ?_⟩
  · intro b hb hmem
    rcases List.mem_append.1 hb with hb | hb
    · exact (htakes.mem_ids b).2 (.inl (hs.mentioned b hb hmem))
    · rw [List.mem_singleton.1 hb]
      exact (htakes.mem_ids a).2 (.inr (.inl hl.mem_self))
  · intro b hb l' hl' c hc p hp
    rcases List.mem_append.1 hb with hb | hb
    · exact (htakes.mem_links _).2 (.inl (hs.linked b hb l' hl' c hc p hp))
    · rw [List.mem_singleton.1 hb] at hl'
      -- every record of the chain declares the link that the lineage follows
      rw [hl'.unique hl] at hc
      have hrecord := hr.link_mem_recordOrBlank h.wellFormed hp
      exact (htakes.mem_links _).2 (.inr (List.mem_flatMap.2 ⟨c, hc, hrecord⟩))
  · simp [hs.failures, Hierarchy.contains_iff.2 ha]

/-- Whatever affiliations it is asked for, the registry's snapshot shows what the hierarchy shows. -/
theorem pictures_take (hr : r.Reflects h.forest.ids h.forest.links)
    (affiliations : List OrganizationId) :
    Pictures h (firstSeen affiliations) (take r.fetch affiliations) := by
  refine take_induction r.fetch affiliations (pictures_empty h) ?_
  intro done s a _ hs
  by_cases ha : a ∈ h.forest.ids
  · exact pictures_add_of_mem hr hs ha
  · exact pictures_add_of_not_mem hr hs ha

/-- What a snapshot shows has the top that it has in the hierarchy. -/
theorem Pictures.root?_eq (hs : Pictures h done s) (ha : a ∈ done) :
    s.hierarchy.root? a = h.root? a := by
  by_cases hmem : a ∈ h.forest.ids
  · obtain ⟨l, hl⟩ := h.exists_lineage hmem
    obtain ⟨r, hr⟩ := hl.exists_getLast?
    have hparent : ∀ c ∈ l, s.hierarchy.forest.parent? c = h.forest.parent? c := by
      intro c hc
      cases hp : h.forest.parent? c with
      | some p =>
        rw [parent?_eq_some_iff h.wellFormed] at hp
        rw [parent?_eq_some_iff s.hierarchy.wellFormed]
        exact hs.linked a ha l hl c hc p hp
      | none =>
        rw [parent?_eq_none_iff h.wellFormed] at hp
        rw [parent?_eq_none_iff s.hierarchy.wellFormed]
        exact fun p hl => hp p (hs.links hl)
    rw [Hierarchy.root?_eq_some_iff.2 ⟨hmem, l, hl, hr⟩, Hierarchy.root?_eq_some_iff]
    exact ⟨hs.mentioned a ha hmem, l, hl.congr hparent, hr⟩
  · rw [Hierarchy.root?_eq_none_iff.2 hmem, Hierarchy.root?_eq_none_iff]
    exact fun hin => hmem (hs.ids hin)

end Snapshot

end PublicationIndicator
