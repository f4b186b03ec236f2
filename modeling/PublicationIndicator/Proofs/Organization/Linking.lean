import Mathlib.Data.List.Nodup
import PublicationIndicator.Organization.Hierarchy
import PublicationIndicator.Proofs.Traversal

/-!
# PublicationIndicator.Proofs.Organization.Linking — what a forest takes in

`Forest.Takes f is ls g` says that `g` is the forest `f` with the organizations `is` and the links `ls`
taken in.  Records that are taken in take in their names and their links (`takes_addAll`), and they can
be taken in if the links together are `Linkable`: no organization is linked to itself or to two parents
(`exists_addAll`).
-/

namespace PublicationIndicator

namespace Forest

/-- Links with both ends mentioned, one for each part. -/
structure WellFormed (f : Forest) : Prop where
  ids : f.ids.Nodup
  child_mem : ∀ l ∈ f.links, l.1 ∈ f.ids
  parent_mem : ∀ l ∈ f.links, l.2 ∈ f.ids
  single : (f.links.map (·.1)).Nodup

/-- `g` is `f` with the organizations `is` and the links `ls` taken in. -/
structure Takes (f : Forest) (is : List OrganizationId)
    (ls : List (OrganizationId × OrganizationId)) (g : Forest) : Prop where
  wellFormed : g.WellFormed
  mem_ids : ∀ i, i ∈ g.ids ↔ i ∈ f.ids ∨ i ∈ is ∨ ∃ l ∈ ls, i = l.1 ∨ i = l.2
  mem_links : ∀ l, l ∈ g.links ↔ l ∈ f.links ∨ l ∈ ls
  irreflexive : ∀ l ∈ ls, l.1 ≠ l.2

theorem wellFormed_empty : empty.WellFormed where
  ids := List.nodup_nil
  child_mem := fun _ h => by cases h
  parent_mem := fun _ h => by cases h
  single := List.nodup_nil

variable {f g k : Forest} {c p i : OrganizationId}

/-- The parent of a part is the one it is linked to. -/
theorem parent?_eq_some_iff (hf : f.WellFormed) : f.parent? c = some p ↔ (c, p) ∈ f.links := by
  rw [parent?, Option.map_eq_some_iff]
  constructor
  · rintro ⟨⟨c', p'⟩, hl, rfl⟩
    have hc : c' = c := by simpa using List.find?_some hl
    exact hc ▸ List.mem_of_find?_eq_some hl
  · intro hl
    obtain ⟨l, hfind⟩ : ∃ l, f.links.find? (fun l => l.1 = c) = some l := by
      cases hfind : f.links.find? (fun l => l.1 = c) with
      | some l => exact ⟨l, rfl⟩
      | none => simpa using List.find?_eq_none.1 hfind (c, p) hl
    have hc : l.1 = c := by simpa using List.find?_some hfind
    have hl' := List.mem_of_find?_eq_some hfind
    exact ⟨l, hfind, congrArg (·.2) (List.inj_on_of_nodup_map hf.single hl' hl hc)⟩

theorem parent?_eq_none_iff (hf : f.WellFormed) : f.parent? c = none ↔ ∀ p, (c, p) ∉ f.links := by
  rw [Option.eq_none_iff_forall_ne_some]
  simp only [ne_eq, parent?_eq_some_iff hf]

/-! ### Taking in -/

theorem takes_nil (hf : f.WellFormed) : f.Takes [] [] f where
  wellFormed := hf
  mem_ids := by simp
  mem_links := by simp
  irreflexive := fun _ h => by cases h

theorem Takes.trans {is is' : List OrganizationId} {ls ls' : List (OrganizationId × OrganizationId)}
    (h : f.Takes is ls g) (h' : g.Takes is' ls' k) : f.Takes (is ++ is') (ls ++ ls') k where
  wellFormed := h'.wellFormed
  mem_ids := by
    intro i
    rw [h'.mem_ids, h.mem_ids]
    simp only [List.mem_append, or_and_right, exists_or]
    apply iff_of_eq
    ac_rfl
  mem_links := by
    intro l
    rw [h'.mem_links, h.mem_links, List.mem_append, or_assoc]
  irreflexive := by
    intro l hl
    rcases List.mem_append.1 hl with hl | hl
    · exact h.irreflexive l hl
    · exact h'.irreflexive l hl

@[simp] theorem links_mention (f : Forest) (i : OrganizationId) : (f.mention i).links = f.links := by
  unfold mention
  split <;> rfl

theorem mem_ids_mention {j : OrganizationId} : j ∈ (f.mention i).ids ↔ j ∈ f.ids ∨ j = i := by
  unfold mention
  split
  · rename_i hi
    rw [or_iff_left_of_imp]
    rintro rfl
    exact hi
  · simp

theorem takes_mention (hf : f.WellFormed) (i : OrganizationId) : f.Takes [i] [] (f.mention i) where
  wellFormed := {
    ids := by
      unfold mention
      split
      · exact hf.ids
      · rename_i hi
        exact List.nodup_append.2 ⟨hf.ids, List.nodup_singleton i, by
          rintro a ha b hb rfl
          exact hi (List.mem_singleton.1 hb ▸ ha)⟩
    child_mem := by
      intro l hl
      rw [links_mention] at hl
      exact mem_ids_mention.2 (.inl (hf.child_mem l hl))
    parent_mem := by
      intro l hl
      rw [links_mention] at hl
      exact mem_ids_mention.2 (.inl (hf.parent_mem l hl))
    single := by
      rw [links_mention]
      exact hf.single }
  mem_ids := by
    intro j
    rw [mem_ids_mention]
    simp
  mem_links := by simp
  irreflexive := fun _ h => by cases h

/-- The forest in which a link is declared has both ends of it. -/
theorem takes_mention_both (hf : f.WellFormed) (c p : OrganizationId) :
    f.Takes [c, p] [] ((f.mention c).mention p) :=
  (takes_mention hf c).trans (takes_mention (takes_mention hf c).wellFormed p)

theorem parent?_mention (f : Forest) (i c : OrganizationId) :
    (f.mention i).parent? c = f.parent? c := by
  rw [parent?, links_mention, parent?]

/-- A link is declared for the first time, or once more. -/
theorem link_cases (h : f.link c p = .ok g) : c ≠ p ∧
    (f.parent? c = none ∧
        g = { (f.mention c).mention p with links := f.links ++ [(c, p)] } ∨
      f.parent? c = some p ∧ g = (f.mention c).mention p) := by
  unfold link at h
  split at h
  · cases h
  · rename_i hne
    refine ⟨hne, ?_⟩
    simp only [parent?_mention, links_mention] at h
    cases hp : f.parent? c with
    | none =>
      rw [hp] at h
      cases h
      exact .inl ⟨rfl, rfl⟩
    | some q =>
      rw [hp] at h
      simp only at h
      split at h
      · rename_i hq
        cases h
        exact .inr ⟨by rw [hq], rfl⟩
      · cases h

/-- A part without a parent gets one. -/
theorem takes_new_link (hf : f.WellFormed) (hne : c ≠ p) (hnone : f.parent? c = none) :
    f.Takes [] [(c, p)] { (f.mention c).mention p with links := f.links ++ [(c, p)] } := by
  have hboth := takes_mention_both hf c p
  have hnew := (parent?_eq_none_iff hf).1 hnone
  refine ⟨⟨hboth.wellFormed.ids, ?_, ?_, ?_⟩, ?_, ?_, ?_⟩
  · intro l hl
    rcases List.mem_append.1 hl with hl | hl
    · exact hboth.wellFormed.child_mem l (by simpa using hl)
    · rw [List.mem_singleton.1 hl]
      exact (hboth.mem_ids c).2 (by simp)
  · intro l hl
    rcases List.mem_append.1 hl with hl | hl
    · exact hboth.wellFormed.parent_mem l (by simpa using hl)
    · rw [List.mem_singleton.1 hl]
      exact (hboth.mem_ids p).2 (by simp)
  · rw [List.map_append]
    refine List.nodup_append.2 ⟨hf.single, List.nodup_singleton _, ?_⟩
    rintro a ha b hb rfl
    obtain ⟨⟨c', q⟩, hl, rfl⟩ := List.mem_map.1 ha
    obtain rfl : c' = c := by simpa using hb
    exact hnew q hl
  · intro j
    rw [hboth.mem_ids]
    simp
  · intro l
    simp
  · simpa using hne

/-- Declaring a link once more takes in nothing new. -/
theorem takes_old_link (hf : f.WellFormed) (hne : c ≠ p) (hsome : f.parent? c = some p) :
    f.Takes [] [(c, p)] ((f.mention c).mention p) := by
  have hboth := takes_mention_both hf c p
  refine ⟨hboth.wellFormed, ?_, ?_, by simpa using hne⟩
  · intro j
    rw [hboth.mem_ids]
    simp
  · intro l
    rw [hboth.mem_links, List.mem_singleton]
    simp only [List.not_mem_nil, or_false]
    rw [iff_self_or]
    rintro rfl
    exact (parent?_eq_some_iff hf).1 hsome

theorem takes_link (hf : f.WellFormed) (h : f.link c p = .ok g) : f.Takes [] [(c, p)] g := by
  obtain ⟨hne, ⟨hnone, rfl⟩ | ⟨hsome, rfl⟩⟩ := link_cases h
  · exact takes_new_link hf hne hnone
  · exact takes_old_link hf hne hsome

theorem takes_links {ls : List (OrganizationId × OrganizationId)} (hf : f.WellFormed)
    (h : ls.foldlM (fun f l => f.link l.1 l.2) f = .ok g) : f.Takes [] ls g := by
  induction ls generalizing f with
  | nil =>
    cases h
    exact takes_nil hf
  | cons l ls ih =>
    rw [List.foldlM_cons] at h
    obtain ⟨f', hl, h⟩ := bind_eq_ok_iff.1 h
    have htakes := takes_link hf hl
    exact htakes.trans (ih htakes.wellFormed h)

/-- A record takes in its name and its links. -/
theorem takes_add {o : Organization} (hf : f.WellFormed) (h : f.add o = .ok g) :
    f.Takes [o.id] o.links g := by
  have htakes := takes_mention hf o.id
  exact htakes.trans (takes_links htakes.wellFormed h)

/-- Records take in their names and their links. -/
theorem takes_addAll {os : List Organization} (hf : f.WellFormed) (h : f.addAll os = .ok g) :
    f.Takes (os.map Organization.id) (os.flatMap Organization.links) g := by
  induction os generalizing f with
  | nil =>
    cases h
    exact takes_nil hf
  | cons o os ih =>
    rw [addAll, List.foldlM_cons] at h
    obtain ⟨f', ho, h⟩ := bind_eq_ok_iff.1 h
    have htakes := takes_add hf ho
    exact htakes.trans (ih htakes.wellFormed h)

/-- What is taken in stays within what holds all of it. -/
theorem Takes.subset {is : List OrganizationId} {ls : List (OrganizationId × OrganizationId)}
    (h : f.Takes is ls g) (hk : k.WellFormed) (hids : f.ids ⊆ k.ids) (hlinks : f.links ⊆ k.links)
    (his : is ⊆ k.ids) (hls : ls ⊆ k.links) : g.ids ⊆ k.ids ∧ g.links ⊆ k.links := by
  constructor
  · intro i hi
    rcases (h.mem_ids i).1 hi with hi | hi | ⟨l, hl, hi | hi⟩
    · exact hids hi
    · exact his hi
    · rw [hi]
      exact hk.child_mem l (hls hl)
    · rw [hi]
      exact hk.parent_mem l (hls hl)
  · intro l hl
    exact ((h.mem_links l).1 hl).elim (fun hl => hlinks hl) fun hl => hls hl

/-! ### Links that can be taken in -/

/-- No organization is linked to itself, or to two parents. -/
structure Linkable (ls : List (OrganizationId × OrganizationId)) : Prop where
  irreflexive : ∀ i, (i, i) ∉ ls
  single : ∀ c p q, (c, p) ∈ ls → (c, q) ∈ ls → p = q

theorem Linkable.mono {ls ls' : List (OrganizationId × OrganizationId)} (h : Linkable ls)
    (hsub : ls' ⊆ ls) : Linkable ls' where
  irreflexive := fun i hi => h.irreflexive i (hsub hi)
  single := fun c p q hp hq => h.single c p q (hsub hp) (hsub hq)

theorem exists_link (hf : f.WellFormed) (h : Linkable ((c, p) :: f.links)) :
    ∃ g, f.link c p = .ok g := by
  have hne : c ≠ p := by
    rintro rfl
    exact h.irreflexive c (by simp)
  rw [link, if_neg hne]
  simp only [parent?_mention]
  cases hq : f.parent? c with
  | none => exact ⟨_, rfl⟩
  | some q =>
    have hqp : q = p :=
      h.single c q p (List.mem_cons_of_mem _ ((parent?_eq_some_iff hf).1 hq)) (by simp)
    simp only [hqp, ↓reduceIte]
    exact ⟨_, rfl⟩

theorem exists_links {ls : List (OrganizationId × OrganizationId)} (hf : f.WellFormed)
    (h : Linkable (ls ++ f.links)) : ∃ g, ls.foldlM (fun f l => f.link l.1 l.2) f = .ok g := by
  induction ls generalizing f with
  | nil => exact ⟨f, rfl⟩
  | cons l ls ih =>
    obtain ⟨c, p⟩ := l
    have hfirst : (c, p) :: f.links ⊆ (c, p) :: ls ++ f.links := by
      simp
    obtain ⟨f', hf'⟩ := exists_link hf (h.mono hfirst)
    have htakes := takes_link hf hf'
    have hrest : ls ++ f'.links ⊆ (c, p) :: ls ++ f.links := by
      intro l hl
      rw [List.mem_append, htakes.mem_links] at hl
      simp only [List.mem_singleton] at hl
      simp only [List.cons_append, List.mem_cons, List.mem_append]
      tauto
    obtain ⟨g, hg⟩ := ih htakes.wellFormed (h.mono hrest)
    refine ⟨g, ?_⟩
    rw [List.foldlM_cons, hf']
    exact hg

/-- Records can be taken in if their links go together with those that are there. -/
theorem exists_addAll {os : List Organization} (hf : f.WellFormed)
    (h : Linkable (os.flatMap Organization.links ++ f.links)) : ∃ g, f.addAll os = .ok g := by
  induction os generalizing f with
  | nil => exact ⟨f, rfl⟩
  | cons o os ih =>
    have hmention := takes_mention hf o.id
    have hfirst : o.links ++ (f.mention o.id).links ⊆
        (o :: os).flatMap Organization.links ++ f.links := by
      intro l hl
      rw [links_mention, List.mem_append] at hl
      rw [List.flatMap_cons, List.mem_append, List.mem_append]
      tauto
    obtain ⟨f', hf'⟩ := exists_links hmention.wellFormed (h.mono hfirst)
    have htakes : f.Takes [o.id] o.links f' := takes_add hf hf'
    have hrest : os.flatMap Organization.links ++ f'.links ⊆
        (o :: os).flatMap Organization.links ++ f.links := by
      intro l hl
      rw [List.mem_append, htakes.mem_links] at hl
      rw [List.flatMap_cons, List.mem_append, List.mem_append]
      tauto
    obtain ⟨g, hg⟩ := ih htakes.wellFormed (h.mono hrest)
    refine ⟨g, ?_⟩
    rw [addAll, List.foldlM_cons, add, hf']
    exact hg

theorem linkable_of_takes {is : List OrganizationId} {ls : List (OrganizationId × OrganizationId)}
    (h : empty.Takes is ls g) : Linkable g.links where
  irreflexive := by
    intro i hi
    rcases (h.mem_links _).1 hi with hi | hi
    · cases hi
    · exact h.irreflexive _ hi rfl
  single := by
    intro c p q hp hq
    rw [← parent?_eq_some_iff h.wellFormed] at hp hq
    rw [hp] at hq
    exact Option.some.inj hq

end Forest

end PublicationIndicator
