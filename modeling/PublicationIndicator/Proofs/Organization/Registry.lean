import PublicationIndicator.Organization.Registry
import PublicationIndicator.Proofs.Organization.Lineage

/-!
# PublicationIndicator.Proofs.Organization.Registry — a registry says what its records say

`OrganizationRegistry.Reflects r is ls` says that the registry `r` has records of the organizations `is`
and no others, that they declare nothing but links of `ls`, and that each part in `ls` has a parent in
them.  The registry of a list of records reflects the list (`reflects_ofOrganizations`).  One that
reflects a hierarchy answers with the records of a lineage (`fetch_of_lineage`), and where there is none
it answers that there is nothing to be found (`fetch_of_not_mem`).
-/

namespace PublicationIndicator

namespace OrganizationRegistry

/-- `r` has records of the organizations `is`, which declare links of `ls` and a parent for each part. -/
structure Reflects (r : OrganizationRegistry) (is : List OrganizationId)
    (ls : List (OrganizationId × OrganizationId)) : Prop where
  id_eq : ∀ {i o}, r.records.get? i = some o → o.id = i
  registered : ∀ i, (∃ o, r.records.get? i = some o) ↔ i ∈ is
  partOf_mem : ∀ {i o p}, r.records.get? i = some o → o.partOf = some p → (i, p) ∈ ls
  exists_partOf : ∀ {i p}, (i, p) ∈ ls → ∃ o q, r.records.get? i = some o ∧ o.partOf = some q
  hasPart_mem : ∀ {i o c}, r.records.get? i = some o → c ∈ o.hasPart → (c, i) ∈ ls

theorem reflects_empty : Reflects empty [] [] where
  id_eq := fun h => by cases h
  registered := fun i => by simp [empty]
  partOf_mem := fun h => by cases h
  exists_partOf := fun h => by cases h
  hasPart_mem := fun h => by cases h

variable {r : OrganizationRegistry} {is is' : List OrganizationId}
  {ls ls' : List (OrganizationId × OrganizationId)} {i : OrganizationId} {o : Organization}

/-- It does not matter in which order organizations and links are listed. -/
theorem Reflects.congr (h : r.Reflects is ls) (his : ∀ i, i ∈ is ↔ i ∈ is')
    (hls : ∀ l, l ∈ ls ↔ l ∈ ls') : r.Reflects is' ls' where
  id_eq := h.id_eq
  registered := fun i => (h.registered i).trans (his i)
  partOf_mem := fun hi hp => (hls _).1 (h.partOf_mem hi hp)
  exists_partOf := fun hl => h.exists_partOf ((hls _).2 hl)
  hasPart_mem := fun hi hc => (hls _).1 (h.hasPart_mem hi hc)

/-! ### Records kept and blank ones -/

theorem recordOrBlank_of_get? (h : r.records.get? i = some o) : r.recordOrBlank i = o := by
  rw [recordOrBlank, h]
  rfl

/-- A record is kept, or a blank one is taken for it. -/
theorem recordOrBlank_cases (r : OrganizationRegistry) (i : OrganizationId) :
    r.records.get? i = some (r.recordOrBlank i) ∨
      r.records.get? i = none ∧ r.recordOrBlank i = .blank i := by
  cases h : r.records.get? i with
  | some o =>
    left
    rw [recordOrBlank_of_get? h]
  | none =>
    right
    refine ⟨rfl, ?_⟩
    rw [recordOrBlank, h]
    rfl

theorem Reflects.recordOrBlank_id (h : r.Reflects is ls) (i : OrganizationId) :
    (r.recordOrBlank i).id = i := by
  rcases r.recordOrBlank_cases i with hi | ⟨-, hi⟩
  · exact h.id_eq hi
  · rw [hi]
    rfl

theorem Reflects.recordOrBlank_partOf (h : r.Reflects is ls) {p : OrganizationId}
    (hp : (r.recordOrBlank i).partOf = some p) : (i, p) ∈ ls := by
  rcases r.recordOrBlank_cases i with hi | ⟨-, hi⟩
  · exact h.partOf_mem hi hp
  · rw [hi] at hp
    cases hp

theorem Reflects.recordOrBlank_hasPart (h : r.Reflects is ls) {c : OrganizationId}
    (hc : c ∈ (r.recordOrBlank i).hasPart) : (c, i) ∈ ls := by
  rcases r.recordOrBlank_cases i with hi | ⟨-, hi⟩
  · exact h.hasPart_mem hi hc
  · rw [hi] at hc
    cases hc

theorem Reflects.exists_recordOrBlank_partOf (h : r.Reflects is ls) {p : OrganizationId}
    (hp : (i, p) ∈ ls) : ∃ q, (r.recordOrBlank i).partOf = some q := by
  obtain ⟨o, q, ho, hq⟩ := h.exists_partOf hp
  exact ⟨q, by rw [recordOrBlank_of_get? ho, hq]⟩

theorem Reflects.links_recordOrBlank (h : r.Reflects is ls) (i : OrganizationId) :
    (r.recordOrBlank i).links ⊆ ls := by
  intro l hl
  rw [Organization.links, h.recordOrBlank_id, List.mem_append] at hl
  rcases hl with hl | hl
  · obtain ⟨p, hp, rfl⟩ := List.mem_map.1 hl
    exact h.recordOrBlank_partOf (Option.mem_toList.1 hp)
  · obtain ⟨c, hc, rfl⟩ := List.mem_map.1 hl
    exact h.recordOrBlank_hasPart hc

/-! ### Taking in records -/

/-- A record may be put that declares links which are there already or are links of its own part `o.id`,
and that has a parent if any link says so. -/
theorem reflects_put (h : r.Reflects is ls) (hown : ∀ l ∈ ls', l.1 = o.id)
    (hpart : ∀ p, o.partOf = some p → (o.id, p) ∈ ls ++ ls')
    (hparent : ∀ p, (o.id, p) ∈ ls ++ ls' → ∃ q, o.partOf = some q)
    (hhas : ∀ c ∈ o.hasPart, (c, o.id) ∈ ls) : (r.put o).Reflects (is ++ [o.id]) (ls ++ ls') where
  id_eq := by
    intro i o'
    exact SortedMap.forall_get?_insert (P := fun i o => o.id = i) rfl (fun _ _ hi => h.id_eq hi) i o'
  registered := by
    intro i
    rw [put, ← SortedMap.mem_keys_iff, SortedMap.mem_keys_insert, SortedMap.mem_keys_iff,
      h.registered, List.mem_append, List.mem_singleton, or_comm]
  partOf_mem := by
    intro i o' p
    refine SortedMap.forall_get?_insert (P := fun i o => o.partOf = some p → (i, p) ∈ ls ++ ls')
      (hpart p) (fun i o hi hp => ?_) i o'
    exact List.mem_append_left _ (h.partOf_mem hi hp)
  exists_partOf := by
    intro i p hl
    by_cases hi : i = o.id
    · subst hi
      obtain ⟨q, hq⟩ := hparent p hl
      exact ⟨o, q, SortedMap.get?_insert_self _ _ _, hq⟩
    · rw [put, SortedMap.get?_insert_of_ne hi]
      rcases List.mem_append.1 hl with hl | hl
      · exact h.exists_partOf hl
      · exact absurd (hown _ hl) hi
  hasPart_mem := by
    intro i o' c
    refine SortedMap.forall_get?_insert (P := fun i o => c ∈ o.hasPart → (c, i) ∈ ls ++ ls')
      (fun hc => List.mem_append_left _ (hhas c hc)) (fun i o hi hc => ?_) i o'
    exact List.mem_append_left _ (h.hasPart_mem hi hc)

/-- A part that is adopted keeps the parent it has. -/
theorem reflects_adopt (h : r.Reflects is ls) (whole part : OrganizationId) :
    (adopt whole r part).Reflects (is ++ [part]) (ls ++ [(part, whole)]) := by
  have hid := h.recordOrBlank_id part
  have hput : (adopt whole r part).Reflects (is ++ [(r.recordOrBlank part).id])
      (ls ++ [(part, whole)]) := by
    refine reflects_put h ?_ ?_ ?_ ?_
    · simpa using hid.symm
    · intro p hp
      rw [hid]
      -- the parent is one that was known, or else it is the whole
      cases hq : (r.recordOrBlank part).partOf with
      | some q =>
        rw [hq] at hp
        cases hp
        exact List.mem_append_left _ (h.recordOrBlank_partOf hq)
      | none =>
        rw [hq] at hp
        cases hp
        simp
    · intro p _
      exact ⟨_, rfl⟩
    · intro c hc
      rw [hid]
      exact h.recordOrBlank_hasPart hc
  rwa [hid] at hput

theorem reflects_adopt_all (h : r.Reflects is ls) (whole : OrganizationId)
    (parts : List OrganizationId) : (parts.foldl (adopt whole) r).Reflects (is ++ parts)
      (ls ++ parts.map fun part => (part, whole)) := by
  induction parts generalizing r is ls with
  | nil => simpa using h
  | cons part parts ih => simpa using ih (reflects_adopt h whole part)

/-- A record that is taken in adds its name, those of its parts, and its links. -/
theorem reflects_register (h : r.Reflects is ls) (o : Organization) :
    (r.register o).Reflects (is ++ (o.id :: o.hasPart)) (ls ++ o.links) := by
  have hadopt := reflects_adopt_all h o.id o.hasPart
  have hput : (r.register o).Reflects (is ++ o.hasPart ++ [o.id])
      (ls ++ (o.hasPart.map fun c => (c, o.id)) ++ o.partOf.toList.map fun p => (o.id, p)) := by
    refine reflects_put hadopt ?_ ?_ ?_ ?_
    · intro l hl
      obtain ⟨p, -, rfl⟩ := List.mem_map.1 hl
      rfl
    · intro p hp
      cases hq : o.partOf with
      | some q =>
        rw [hq] at hp
        cases hp
        simp
      | none =>
        rw [hq] at hp
        exact List.mem_append_left _ (hadopt.recordOrBlank_partOf hp)
    · intro p hp
      cases hq : o.partOf with
      | some q => exact ⟨q, rfl⟩
      | none =>
        rw [hq] at hp
        exact hadopt.exists_recordOrBlank_partOf (by simpa using hp)
    · intro c hc
      exact List.mem_append_right _ (List.mem_map.2 ⟨c, hc, rfl⟩)
  refine hput.congr (fun i => ?_) fun l => ?_
  · simp only [List.mem_append, List.mem_cons, List.not_mem_nil, or_false]
    tauto
  · unfold Organization.links
    simp only [List.mem_append]
    tauto

/-- The registry of a list of records reflects the list. -/
theorem reflects_ofOrganizations (os : List Organization) :
    (ofOrganizations os).Reflects (os.flatMap fun o => o.id :: o.hasPart)
      (os.flatMap Organization.links) := by
  have hfold : ∀ {r : OrganizationRegistry} {is ls}, r.Reflects is ls →
      (os.foldl register r).Reflects (is ++ os.flatMap fun o => o.id :: o.hasPart)
        (ls ++ os.flatMap Organization.links) := by
    induction os with
    | nil =>
      intro r is ls h
      simpa using h
    | cons o os ih =>
      intro r is ls h
      simpa using ih (reflects_register h o)
  exact hfold reflects_empty

/-- Where every parent has a record or is a part in one, the registry of a list of records reflects the
hierarchy that the list declares. -/
theorem reflects_hierarchy {os : List Organization} {h : Hierarchy}
    (hos : Hierarchy.ofOrganizations os = .ok h)
    (hclosed : ∀ o ∈ os, ∀ p, o.partOf = some p → ∃ o' ∈ os, p = o'.id ∨ p ∈ o'.hasPart) :
    (ofOrganizations os).Reflects h.forest.ids h.forest.links := by
  have htakes := Hierarchy.takes_ofOrganizations hos
  refine (reflects_ofOrganizations os).congr (fun i => ?_) fun l => ?_
  · rw [htakes.mem_ids, List.mem_flatMap]
    constructor
    · rintro ⟨o, ho, hi⟩
      right
      rcases List.mem_cons.1 hi with rfl | hi
      · exact .inl (List.mem_map.2 ⟨o, ho, rfl⟩)
      · have hl : (i, o.id) ∈ o.links :=
          List.mem_append_right _ (List.mem_map.2 ⟨i, hi, rfl⟩)
        exact .inr ⟨_, List.mem_flatMap.2 ⟨o, ho, hl⟩, .inl rfl⟩
    · rintro (hi | hi | ⟨l, hl, hi⟩)
      · cases hi
      · obtain ⟨o, ho, rfl⟩ := List.mem_map.1 hi
        exact ⟨o, ho, by simp⟩
      · obtain ⟨o, ho, hl⟩ := List.mem_flatMap.1 hl
        rcases List.mem_append.1 hl with hl | hl
        · obtain ⟨p, hp, rfl⟩ := List.mem_map.1 hl
          rcases hi with rfl | rfl
          · exact ⟨o, ho, by simp⟩
          · obtain ⟨o', ho', hp'⟩ := hclosed o ho _ (Option.mem_toList.1 hp)
            exact ⟨o', ho', List.mem_cons.2 hp'⟩
        · obtain ⟨c, hc, rfl⟩ := List.mem_map.1 hl
          rcases hi with rfl | rfl
          · exact ⟨o, ho, List.mem_cons_of_mem _ hc⟩
          · exact ⟨o, ho, by simp⟩
  · rw [htakes.mem_links]
    simp [Forest.empty]

/-! ### Chains -/

open Forest

variable {f : Forest}

/-- The parent in the records is the parent in the forest. -/
theorem Reflects.partOf_eq (h : r.Reflects f.ids f.links) (hf : f.WellFormed)
    (hi : r.records.get? i = some o) : o.partOf = f.parent? i := by
  cases hp : o.partOf with
  | some p =>
    exact ((parent?_eq_some_iff hf).2 (h.partOf_mem hi hp)).symm
  | none =>
    symm
    refine (parent?_eq_none_iff hf).2 fun p hl => ?_
    obtain ⟨o', q, hi', hq⟩ := h.exists_partOf hl
    rw [hi] at hi'
    cases hi'
    rw [hp] at hq
    cases hq

/-- A record declares the link to the parent. -/
theorem Reflects.link_mem_recordOrBlank (h : r.Reflects f.ids f.links) (hf : f.WellFormed)
    {p : OrganizationId} (hl : (i, p) ∈ f.links) : (i, p) ∈ (r.recordOrBlank i).links := by
  obtain ⟨o, q, ho, -⟩ := h.exists_partOf hl
  have hp : o.partOf = some p := (h.partOf_eq hf ho).trans ((parent?_eq_some_iff hf).2 hl)
  rw [recordOrBlank_of_get? ho, Organization.links, hp, h.id_eq ho]
  simp

/-- A chain follows the lineage. -/
theorem Reflects.chainFrom_eq (h : r.Reflects f.ids f.links) (hf : f.WellFormed)
    {l : List OrganizationId} (hl : f.Lineage i l) (hi : i ∈ f.ids) {n : Nat} (hn : l.length ≤ n)
    {seen : List Organization} (hseen : ∀ o ∈ seen, o.id ∉ l) :
    r.chainFrom n seen i = .ok (seen ++ l.map r.recordOrBlank) := by
  induction hl generalizing n seen with
  | @top i hnone =>
    obtain ⟨n, rfl⟩ : ∃ m, n = m + 1 := ⟨n - 1, by simp at hn; omega⟩
    obtain ⟨o, ho⟩ := (h.registered i).2 hi
    have hnew : ¬ seen.any (fun o => o.id = i) = true := by
      simpa using hseen
    rw [chainFrom, if_neg hnew, ho, List.map_singleton, recordOrBlank_of_get? ho]
    simp only [h.partOf_eq hf ho, hnone]
  | @up i p l hsome rest ih =>
    obtain ⟨n, rfl⟩ : ∃ m, n = m + 1 := ⟨n - 1, by simp at hn; omega⟩
    obtain ⟨o, ho⟩ := (h.registered i).2 hi
    have hnew : ¬ seen.any (fun o => o.id = i) = true := by
      intro hany
      obtain ⟨o, ho, hoi⟩ := List.any_eq_true.1 hany
      exact hseen o ho (by simp [of_decide_eq_true hoi])
    have hp : p ∈ f.ids := hf.parent_mem _ ((parent?_eq_some_iff hf).1 hsome)
    -- nothing stands in a lineage twice, so that the chain does not end before it does
    have hnext : ∀ o' ∈ seen ++ [o], o'.id ∉ l := by
      intro o' ho'
      rcases List.mem_append.1 ho' with ho' | ho'
      · exact fun hmem => hseen o' ho' (List.mem_cons_of_mem _ hmem)
      · rw [List.mem_singleton.1 ho', h.id_eq ho]
        exact (List.nodup_cons.1 (Lineage.up hsome rest).nodup).1
    rw [List.length_cons] at hn
    rw [chainFrom, if_neg hnew, ho, List.map_cons, recordOrBlank_of_get? ho]
    simp only [h.partOf_eq hf ho, hsome]
    rw [ih hp (by omega) hnext, List.append_assoc]
    rfl

/-- The registry delivers the records of a lineage. -/
theorem Reflects.fetch_of_lineage (h : r.Reflects f.ids f.links) (hf : f.WellFormed)
    {l : List OrganizationId} (hl : f.Lineage i l) (hi : i ∈ f.ids) :
    r.fetch i = .ok (l.map r.recordOrBlank) := by
  have hkeys : l ⊆ r.records.keys := by
    intro a ha
    exact SortedMap.mem_keys_iff.2 ((h.registered a).2 (hl.subset_ids hf hi ha))
  have hlen : l.length ≤ r.size := by
    have hle := (List.subperm_of_subset hl.nodup hkeys).length_le
    rwa [SortedMap.keys, List.length_map] at hle
  rw [fetch, h.chainFrom_eq hf hl hi (by omega) (fun _ ho => by cases ho)]
  rfl

/-- Of what has no record there is nothing to be found. -/
theorem Reflects.fetch_of_not_mem (h : r.Reflects is ls) (hi : i ∉ is) :
    r.fetch i = .error (.notFound i) := by
  have hnone : r.records.get? i = none := by
    rw [Option.eq_none_iff_forall_ne_some]
    intro o ho
    exact hi ((h.registered i).1 ⟨o, ho⟩)
  rw [fetch, chainFrom, hnone]
  rfl

/-! ### Whatever the registry -/

/-- A chain goes on from the records that it starts with. -/
theorem prefix_of_chainFrom {n : Nat} {seen chain : List Organization}
    (h : r.chainFrom n seen i = .ok chain) : seen <+: chain := by
  induction n generalizing seen i with
  | zero =>
    cases h
    exact List.prefix_refl _
  | succ n ih =>
    rw [chainFrom] at h
    split at h
    · cases h
      exact List.prefix_refl _
    · split at h
      · cases h
      · rename_i o _
        split at h
        · cases h
          exact List.prefix_append seen [o]
        · exact (List.prefix_append seen [o]).trans (ih h)

/-- A chain is not delivered only if one of its organizations has no record. -/
theorem exists_missing_of_chainFrom {n : Nat} {seen : List Organization} {err : FetchError}
    (h : r.chainFrom n seen i = .error err) :
    ∃ missing, err = .notFound missing ∧ r.records.get? missing = none := by
  induction n generalizing seen i with
  | zero => cases h
  | succ n ih =>
    rw [chainFrom] at h
    split at h
    · cases h
    · split at h
      · rename_i hnone
        cases h
        exact ⟨i, rfl, hnone⟩
      · split at h
        · cases h
        · exact ih h

/-- A chain has the record of the organization that was asked for. -/
theorem exists_record_of_fetch {chain : List Organization} (h : r.fetch i = .ok chain) :
    ∃ o ∈ chain, r.records.get? i = some o := by
  rw [fetch, chainFrom, if_neg (by simp)] at h
  split at h
  · cases h
  · rename_i o ho
    refine ⟨o, ?_, ho⟩
    split at h
    · cases h
      exact List.mem_singleton_self o
    · exact (prefix_of_chainFrom h).subset (List.mem_singleton_self o)

end OrganizationRegistry

end PublicationIndicator
