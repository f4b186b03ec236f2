import Mathlib.Data.List.Chain
import PublicationIndicator.Proofs.Organization.Ancestry
import PublicationIndicator.Proofs.Organization.Inquiry
import PublicationIndicator.Proofs.Organization.Registry

/-!
# PublicationIndicator.Proofs.Organization.Climb — the way up through a registry

Whatever records a registry is made of, each organization has one parent at most in it: the last one that
its own records name, or else the first organization that lists it as a part (`partOf_ofOrganizations`).
`OrganizationRegistry.Climbs` is the way up from an organization, without a bound on its length: it ends
because nothing is passed twice, and `fetch` answers with its end (`climbs_iff_fetch`).  The answer is a
chain that breaks off nowhere (`OrganizationRegistry.Chain`), or the missing record at which the parents
end; a chain that comes back to itself is refused by every snapshot (`fetch_ofOrganizations`).
-/

namespace PublicationIndicator

open Relation

namespace OrganizationRegistry

variable {r : OrganizationRegistry} {is : List OrganizationId}
  {ls : List (OrganizationId × OrganizationId)} {i c p x y start : OrganizationId}
  {o : Organization}

/-! ### The parent that is kept -/

/-- The record kept for `c` names the parent `p`. -/
def PartOf (r : OrganizationRegistry) (c p : OrganizationId) : Prop :=
  ∃ o, r.records.get? c = some o ∧ o.partOf = some p

/-- The parent in the last of an organization's own records that names one. -/
def declaredParent? (os : List Organization) (i : OrganizationId) : Option OrganizationId :=
  ((os.filter fun o => o.id = i).filterMap Organization.partOf).getLast?

/-- The first organization that lists another one as its part. -/
def adopter? (os : List Organization) (i : OrganizationId) : Option OrganizationId :=
  (os.find? fun o => i ∈ o.hasPart).map Organization.id

theorem partOf_iff_recordOrBlank : r.PartOf c p ↔ (r.recordOrBlank c).partOf = some p := by
  unfold PartOf
  rcases r.recordOrBlank_cases c with hc | ⟨hc, hblank⟩
  · rw [hc]
    simp
  · rw [hc, hblank]
    simp [Organization.blank]

/-- An organization has one parent at most. -/
theorem partOf_rightUnique (r : OrganizationRegistry) : Relator.RightUnique r.PartOf := by
  intro c p q hp hq
  rw [partOf_iff_recordOrBlank] at hp hq
  exact Option.some.inj (hp.symm.trans hq)

/-- A record that is put is the one that is kept under its name. -/
theorem partOf_put (r : OrganizationRegistry) (o : Organization) (i : OrganizationId) :
    ((r.put o).recordOrBlank i).partOf =
      if o.id = i then o.partOf else (r.recordOrBlank i).partOf := by
  by_cases hi : o.id = i
  · subst hi
    have hself : (r.put o).records.get? o.id = some o := SortedMap.get?_insert_self _ _ _
    rw [recordOrBlank_of_get? hself, if_pos rfl]
  · rw [recordOrBlank, put, SortedMap.get?_insert_of_ne (Ne.symm hi), if_neg hi]
    rfl

theorem Reflects.partOf_adopt (h : r.Reflects is ls) (whole part i : OrganizationId) :
    ((adopt whole r part).recordOrBlank i).partOf =
      (r.recordOrBlank i).partOf.or (if i = part then some whole else none) := by
  have hid := h.recordOrBlank_id part
  unfold adopt
  dsimp only
  rw [partOf_put]
  dsimp only
  rw [hid]
  by_cases hi : i = part
  · subst hi
    rw [if_pos rfl, if_pos rfl]
    cases (r.recordOrBlank i).partOf <;> rfl
  · rw [if_neg (Ne.symm hi), if_neg hi, Option.or_none]

/-- Parts that have no parent get one, and the others keep theirs. -/
theorem Reflects.partOf_adopt_all (h : r.Reflects is ls) (whole : OrganizationId)
    (parts : List OrganizationId) (i : OrganizationId) :
    ((parts.foldl (adopt whole) r).recordOrBlank i).partOf =
      (r.recordOrBlank i).partOf.or (if i ∈ parts then some whole else none) := by
  induction parts generalizing r is ls with
  | nil => simp
  | cons part parts ih =>
    rw [List.foldl_cons, ih (reflects_adopt h whole part), h.partOf_adopt, Option.or_assoc]
    by_cases hi : i = part
    · simp [hi]
    · simp [hi]

/-- A record's own parent goes before the one that is known, and that one before the record itself as the
parent of its parts. -/
theorem Reflects.partOf_register (h : r.Reflects is ls) (o : Organization) (i : OrganizationId) :
    ((r.register o).recordOrBlank i).partOf = (if o.id = i then o.partOf else none).or
      ((r.recordOrBlank i).partOf.or (if i ∈ o.hasPart then some o.id else none)) := by
  rw [← h.partOf_adopt_all]
  unfold register
  dsimp only
  rw [partOf_put]
  by_cases hi : o.id = i
  · subst hi
    rw [if_pos rfl, if_pos rfl]
  · rw [if_neg hi, if_neg hi, Option.none_or]

/-- **The parent that is kept** is the last one that an organization's own records name, or else the first
organization that lists it as a part. -/
theorem partOf_ofOrganizations (os : List Organization) (i : OrganizationId) :
    ((ofOrganizations os).recordOrBlank i).partOf = (declaredParent? os i).or (adopter? os i) := by
  induction os using List.reverseRecOn with
  | nil => rfl
  | append_singleton os o ih =>
    have hfold : ofOrganizations (os ++ [o]) = (ofOrganizations os).register o := by
      simp [ofOrganizations]
    have hdeclared : declaredParent? (os ++ [o]) i =
        (if o.id = i then o.partOf else none).or (declaredParent? os i) := by
      unfold declaredParent?
      by_cases hi : o.id = i
      · cases hp : o.partOf <;> simp [hi, hp]
      · simp [hi]
    have hadopter : adopter? (os ++ [o]) i =
        (adopter? os i).or (if i ∈ o.hasPart then some o.id else none) := by
      unfold adopter?
      by_cases hi : i ∈ o.hasPart <;> cases hf : os.find? fun o => i ∈ o.hasPart <;> simp [hi, hf]
    rw [hfold, (reflects_ofOrganizations os).partOf_register, ih, hdeclared, hadopter]
    simp only [Option.or_assoc]

/-! ### Going up -/

/-- Each record is kept under its own name. -/
def Filed (r : OrganizationRegistry) : Prop := ∀ i o, r.records.get? i = some o → o.id = i

theorem filed_ofOrganizations (os : List Organization) : (ofOrganizations os).Filed :=
  fun _ _ h => (reflects_ofOrganizations os).id_eq h

/-- Going up from `i`, where the records `seen` stand below, ends with that answer.  There is no bound on
how far it goes. -/
inductive Climbs (r : OrganizationRegistry) : (seen : List Organization) → OrganizationId →
    Except FetchError (List Organization) → Prop
  | again {seen i} (h : i ∈ seen.map Organization.id) : Climbs r seen i (.ok seen)
  | missing {seen i} (hnew : i ∉ seen.map Organization.id) (h : r.records.get? i = none) :
    Climbs r seen i (.error (.notFound i))
  | top {seen i o} (hnew : i ∉ seen.map Organization.id) (ho : r.records.get? i = some o)
    (hp : o.partOf = none) : Climbs r seen i (.ok (seen ++ [o]))
  | up {seen i o p answer} (hnew : i ∉ seen.map Organization.id) (ho : r.records.get? i = some o)
    (hp : o.partOf = some p) (rest : Climbs r (seen ++ [o]) p answer) : Climbs r seen i answer

/-- The way up ends in one way at most. -/
theorem Climbs.unique {seen : List Organization} {a b : Except FetchError (List Organization)}
    (h : r.Climbs seen i a) (h' : r.Climbs seen i b) : a = b := by
  induction h with
  | again => cases h' <;> grind
  | missing => cases h' <;> grind
  | top => cases h' <;> grind
  | up _ _ _ _ ih => cases h' <;> grind

/-- `seen` are the records on the way up from `start`, and `next` is what the last of them names. -/
structure Trail (r : OrganizationRegistry) (start : OrganizationId) (seen : List Organization)
    (next : Option OrganizationId) : Prop where
  head : (seen.map Organization.id ++ next.toList).head? = some start
  stored : ∀ o ∈ seen, r.records.get? o.id = some o
  nodup : (seen.map Organization.id).Nodup
  linked : seen.IsChain fun o o' => o.partOf = some o'.id
  last : ∀ o, seen.getLast? = some o → o.partOf = next

theorem trail_nil (r : OrganizationRegistry) (start : OrganizationId) :
    r.Trail start [] (some start) where
  head := rfl
  stored := fun _ h => by cases h
  nodup := List.nodup_nil
  linked := .nil
  last := fun _ h => by cases h

/-- One more record on the way up. -/
theorem Trail.up {seen : List Organization} (h : r.Trail start seen (some i)) (hr : r.Filed)
    (hnew : i ∉ seen.map Organization.id) (ho : r.records.get? i = some o) :
    r.Trail start (seen ++ [o]) o.partOf := by
  have hid : o.id = i := hr i o ho
  refine ⟨?_, ?_, ?_, ?_, ?_⟩
  · have hhead := h.head
    rw [Option.toList_some] at hhead
    rw [List.map_append, List.map_singleton, hid, List.head?_append, hhead]
    rfl
  · intro o' ho'
    rcases List.mem_append.1 ho' with ho' | ho'
    · exact h.stored o' ho'
    · rw [List.mem_singleton.1 ho', hid]
      exact ho
  · rw [List.map_append, List.map_singleton, hid, ← List.concat_eq_append]
    exact h.nodup.concat hnew
  · refine h.linked.append (.singleton o) fun o' ho' o'' ho'' => ?_
    obtain rfl : o = o'' := by simpa using ho''
    rw [hid]
    exact h.last o' ho'
  · intro o' ho'
    obtain rfl : o = o' := by simpa using ho'
    rfl

/-- There are no more records on the way than the registry has. -/
theorem Trail.length_le {seen : List Organization} {next : Option OrganizationId}
    (h : r.Trail start seen next) : seen.length ≤ r.size := by
  have hkeys : seen.map Organization.id ⊆ r.records.keys := by
    intro i hi
    obtain ⟨o, ho, rfl⟩ := List.mem_map.1 hi
    exact SortedMap.mem_keys_iff.2 ⟨o, h.stored o ho⟩
  have hle := (List.subperm_of_subset h.nodup hkeys).length_le
  rwa [List.length_map, SortedMap.keys, List.length_map] at hle

/-- With a step for each record that is left, and one more, the way is gone to its end. -/
theorem climbs_chainFrom (hr : r.Filed) {n : Nat} {seen : List Organization}
    (h : r.Trail start seen (some i)) (hn : r.size < n + seen.length) :
    r.Climbs seen i (r.chainFrom n seen i) := by
  induction n generalizing seen i with
  | zero =>
    have hle := h.length_le
    omega
  | succ n ih =>
    rw [chainFrom]
    by_cases hi : i ∈ seen.map Organization.id
    · rw [if_pos (by simpa using hi)]
      exact .again hi
    · rw [if_neg (by simpa using hi)]
      cases ho : r.records.get? i with
      | none => exact .missing hi ho
      | some o =>
        have hup := h.up hr hi ho
        dsimp only
        cases hp : o.partOf with
        | none => exact .top hi ho hp
        | some p =>
          rw [hp] at hup
          exact .up hi ho hp (ih hup (by rw [List.length_append, List.length_singleton]; omega))

/-- **The way up ends**, and the registry answers with its end. -/
theorem climbs_iff_fetch (hr : r.Filed) {answer : Except FetchError (List Organization)} :
    r.Climbs [] i answer ↔ r.fetch i = answer := by
  have hfetch : r.Climbs [] i (r.fetch i) := climbs_chainFrom hr (trail_nil r i) (by simp)
  constructor
  · intro h
    exact hfetch.unique h
  · rintro rfl
    exact hfetch

/-! ### Chains -/

/-- A chain of records goes from `start` from parent to parent, passes nothing twice, and ends with a
record without parent, or with one whose parent has been passed. -/
structure Chain (r : OrganizationRegistry) (start : OrganizationId) (chain : List Organization) :
    Prop where
  head : (chain.map Organization.id).head? = some start
  stored : ∀ o ∈ chain, r.records.get? o.id = some o
  nodup : (chain.map Organization.id).Nodup
  linked : chain.IsChain fun o o' => o.partOf = some o'.id
  last : ∀ o, chain.getLast? = some o →
    o.partOf = none ∨ ∃ p, o.partOf = some p ∧ p ∈ chain.map Organization.id

theorem Trail.chain {chain : List Organization} {next : Option OrganizationId}
    (h : r.Trail start chain next)
    (hend : next = none ∨ ∃ p, next = some p ∧ p ∈ chain.map Organization.id) :
    r.Chain start chain := by
  refine ⟨?_, h.stored, h.nodup, h.linked, fun o ho => ?_⟩
  · have hhead := h.head
    rw [List.head?_append] at hhead
    rcases hend with rfl | ⟨p, rfl, hp⟩
    · simpa using hhead
    · cases hmap : chain.map Organization.id with
      | nil =>
        rw [hmap] at hp
        cases hp
      | cons i is =>
        rw [hmap] at hhead
        exact hhead
  · rw [h.last o ho]
    exact hend

/-- What the way up ends with, if a record is not missing, is a chain. -/
theorem Climbs.chain {seen chain : List Organization} {answer : Except FetchError (List Organization)}
    (h : r.Climbs seen i answer) (hr : r.Filed) (ht : r.Trail start seen (some i))
    (ha : answer = .ok chain) : r.Chain start chain := by
  induction h with
  | again hi =>
    cases ha
    exact ht.chain (.inr ⟨_, rfl, hi⟩)
  | missing => cases ha
  | top hnew ho hp =>
    cases ha
    have hup := ht.up hr hnew ho
    rw [hp] at hup
    exact hup.chain (.inl rfl)
  | up hnew ho hp _ ih =>
    have hup := ht.up hr hnew ho
    rw [hp] at hup
    exact ih hup ha

/-- A missing record ends the way up. -/
theorem Climbs.reaches {seen : List Organization} {e : FetchError}
    {answer : Except FetchError (List Organization)} (h : r.Climbs seen i answer)
    (ha : answer = .error e) :
    ∃ x, e = .notFound x ∧ ReflTransGen r.PartOf i x ∧ r.records.get? x = none := by
  induction h with
  | again | top => cases ha
  | missing _ hnone =>
    cases ha
    exact ⟨_, rfl, .refl, hnone⟩
  | up _ ho hp _ ih =>
    obtain ⟨x, he, hreach, hnone⟩ := ih ha
    exact ⟨x, he, .head ⟨_, ho, hp⟩ hreach, hnone⟩

/-- The parent of a record in a chain has a record in the chain. -/
theorem Chain.mem_of_partOf {chain : List Organization} (h : r.Chain start chain)
    (hc : c ∈ chain.map Organization.id) (hp : r.PartOf c p) : p ∈ chain.map Organization.id := by
  obtain ⟨o, ho, rfl⟩ := List.mem_map.1 hc
  obtain ⟨o', ho', hp⟩ := hp
  rw [h.stored o ho] at ho'
  cases ho'
  obtain ⟨before, after, rfl⟩ := List.append_of_mem ho
  cases after with
  | nil =>
    rcases h.last o (by simp) with hnone | ⟨q, hq, hmem⟩
    · rw [hnone] at hp
      cases hp
    · rw [hq] at hp
      cases hp
      exact hmem
  | cons next after =>
    obtain ⟨-, hnext, -⟩ := List.isChain_append_cons_cons.1 h.linked
    rw [hnext] at hp
    cases hp
    simp

/-- Everything above `start` has a record in the chain. -/
theorem Chain.mem_of_reaches {chain : List Organization} (h : r.Chain start chain)
    (hx : ReflTransGen r.PartOf start x) : x ∈ chain.map Organization.id := by
  induction hx with
  | refl => exact List.mem_of_head? h.head
  | tail _ hstep ih => exact h.mem_of_partOf ih hstep

theorem fetch_chain (hr : r.Filed) {chain : List Organization} (h : r.fetch i = .ok chain) :
    r.Chain i chain :=
  ((climbs_iff_fetch hr).2 h).chain hr (trail_nil r i) rfl

theorem not_partOf_of_none (h : r.records.get? x = none) : ¬ r.PartOf x y := by
  rintro ⟨o, ho, -⟩
  rw [h] at ho
  cases ho

/-- A missing record ends the way up, so it is above everything else on the way. -/
theorem reaches_missing (hx : ReflTransGen r.PartOf i x) (hy : ReflTransGen r.PartOf i y)
    (hnone : r.records.get? y = none) : ReflTransGen r.PartOf x y := by
  rcases ReflTransGen.total_of_right_unique r.partOf_rightUnique hx hy with h | h
  · exact h
  · rcases ReflTransGen.cases_head h with rfl | ⟨z, hz, -⟩
    · exact .refl
    · exact absurd hz (not_partOf_of_none hnone)

/-- Nothing is delivered if and only if a record is missing on the way up. -/
theorem fetch_eq_error_iff (hr : r.Filed) {e : FetchError} : r.fetch i = .error e ↔
    ∃ x, e = .notFound x ∧ ReflTransGen r.PartOf i x ∧ r.records.get? x = none := by
  constructor
  · intro h
    exact ((climbs_iff_fetch hr).2 h).reaches rfl
  · rintro ⟨x, rfl, hreach, hnone⟩
    cases hfetch : r.fetch i with
    | ok chain =>
      have hchain := fetch_chain hr hfetch
      obtain ⟨o, ho, rfl⟩ := List.mem_map.1 (hchain.mem_of_reaches hreach)
      rw [hchain.stored o ho] at hnone
      cases hnone
    | error e =>
      -- there is one way up only, and it ends at either of the two missing records
      obtain ⟨y, rfl, hreach', hnone'⟩ := ((climbs_iff_fetch hr).2 hfetch).reaches rfl
      rcases ReflTransGen.cases_head (reaches_missing hreach hreach' hnone') with rfl | ⟨z, hz, -⟩
      · rfl
      · exact absurd hz (not_partOf_of_none hnone)

/-! ### Circles -/

/-- What is above a circle is in it. -/
theorem circle_of_reaches (hx : TransGen r.PartOf x x) (hy : ReflTransGen r.PartOf x y) :
    TransGen r.PartOf y y := by
  induction hy with
  | refl => exact hx
  | tail _ hstep ih =>
    obtain ⟨z, hz, hback⟩ := TransGen.head'_iff.1 ih
    obtain rfl := r.partOf_rightUnique hstep hz
    exact TransGen.tail' hback hstep

/-- Where the parents run into a circle, no record is missing. -/
theorem exists_fetch_of_circle (hr : r.Filed) (hreach : ReflTransGen r.PartOf i x)
    (hcircle : TransGen r.PartOf x x) : ∃ chain, r.fetch i = .ok chain := by
  cases hfetch : r.fetch i with
  | ok chain => exact ⟨chain, rfl⟩
  | error e =>
    obtain ⟨y, -, hreach', hnone⟩ := (fetch_eq_error_iff hr).1 hfetch
    have hy : TransGen r.PartOf y y :=
      circle_of_reaches hcircle (reaches_missing hreach hreach' hnone)
    obtain ⟨z, hz, -⟩ := TransGen.head'_iff.1 hy
    exact absurd hz (not_partOf_of_none hnone)

/-- A hierarchy that takes in a chain links what the chain links. -/
theorem Chain.partOf_extend {chain : List Organization} (h : r.Chain start chain) {k k' : Hierarchy}
    (hk : k.extend chain = .ok k') (hc : c ∈ chain.map Organization.id) (hp : r.PartOf c p) :
    k'.forest.PartOf c p := by
  have hadd := Forest.addAll_of_extend (Hierarchy.extend_eq_ok_iff.1 hk)
  have htakes := Forest.takes_addAll k.wellFormed hadd
  obtain ⟨o, ho, rfl⟩ := List.mem_map.1 hc
  obtain ⟨o', ho', hp⟩ := hp
  rw [h.stored o ho] at ho'
  cases ho'
  rw [Forest.partOf_iff htakes.wellFormed, htakes.mem_links]
  refine .inr (List.mem_flatMap.2 ⟨o, ho, ?_⟩)
  simp [Organization.links, hp]

/-- No hierarchy takes in a chain that comes back to itself. -/
theorem Chain.exists_extend_error {chain : List Organization} (h : r.Chain start chain)
    (hreach : ReflTransGen r.PartOf start x) (hcircle : TransGen r.PartOf x x) (k : Hierarchy) :
    ∃ conflict, k.extend chain = .error conflict := by
  cases hk : k.extend chain with
  | error conflict => exact ⟨conflict, rfl⟩
  | ok k' =>
    have hlinked : ∀ y, TransGen r.PartOf x y → TransGen k'.forest.PartOf x y := by
      intro y hy
      induction hy with
      | single hstep => exact .single (h.partOf_extend hk (h.mem_of_reaches hreach) hstep)
      | tail hto hstep ih =>
        have hmem := h.mem_of_reaches (hreach.trans hto.to_reflTransGen)
        exact ih.tail (h.partOf_extend hk hmem hstep)
    exact absurd (hlinked x hcircle) (k'.acyclic x)

end OrganizationRegistry

namespace Snapshot

/-- What has failed is still reported after more affiliations. -/
theorem mem_failures_add {s : Snapshot} {x : OrganizationId × FetchError}
    (provider : OrganizationProvider) (a : OrganizationId) (hx : x ∈ s.failures) :
    x ∈ (s.add provider a).failures := by
  obtain ⟨e, hfails⟩ | ⟨chain, h, -, -, hadd⟩ := fails_or_extends provider s a
  · rw [add_of_fails hfails]
    exact List.mem_append_left _ hx
  · rw [hadd]
    exact hx

/-- An affiliation fails if no hierarchy takes in its chain. -/
theorem exists_inconsistent_take {provider : OrganizationProvider} {a : OrganizationId}
    {chain : List Organization} {affiliations : List OrganizationId} (ha : a ∈ affiliations)
    (hchain : provider a = .ok chain)
    (hrefused : ∀ k : Hierarchy, ∃ conflict, k.extend chain = .error conflict) :
    ∃ conflict, (a, .inconsistent conflict) ∈ (take provider affiliations).failures := by
  suffices hall : a ∈ firstSeen affiliations →
      ∃ conflict, (a, .inconsistent conflict) ∈ (take provider affiliations).failures from
    hall (mem_firstSeen.2 ha)
  refine take_induction provider affiliations (P := fun done s =>
    a ∈ done → ∃ conflict, (a, .inconsistent conflict) ∈ s.failures) (fun h => by cases h) ?_
  intro done s b _ hs hmem
  rcases List.mem_append.1 hmem with hmem | hmem
  · obtain ⟨conflict, hconflict⟩ := hs hmem
    exact ⟨conflict, mem_failures_add provider b hconflict⟩
  · obtain rfl := List.mem_singleton.1 hmem
    obtain ⟨conflict, hconflict⟩ := hrefused s.hierarchy
    rw [add_of_fails (.inconsistent hchain hconflict)]
    exact ⟨conflict, by simp⟩

end Snapshot

/-- A registry keeps the last parent that an organization's own records name, or else the first
organization that lists it as a part.  Going up through these parents ends, whatever the records are, and
the registry answers with the end.  What it delivers is a chain; it delivers nothing if and only if the
parents end at an organization without a record, and names that.  An affiliation whose parents run into a
circle is reported as inconsistent by every snapshot. -/
theorem fetch_ofOrganizations (os : List Organization) (id : OrganizationId) :
    let r := OrganizationRegistry.ofOrganizations os
    (∀ c p, r.PartOf c p ↔ (OrganizationRegistry.declaredParent? os c).or
      (OrganizationRegistry.adopter? os c) = some p) ∧
    (∀ answer, r.Climbs [] id answer ↔ r.fetch id = answer) ∧
    (∀ chain, r.fetch id = .ok chain → r.Chain id chain) ∧
    (∀ e, r.fetch id = .error e ↔
      ∃ x, e = .notFound x ∧ ReflTransGen r.PartOf id x ∧ r.records.get? x = none) ∧
    ∀ x affiliations, ReflTransGen r.PartOf id x → TransGen r.PartOf x x → id ∈ affiliations →
      ∃ conflict, (id, .inconsistent conflict) ∈ (Snapshot.take r.fetch affiliations).failures := by
  intro r
  have hr : r.Filed := OrganizationRegistry.filed_ofOrganizations os
  refine ⟨fun c p => ?_, fun answer => OrganizationRegistry.climbs_iff_fetch hr,
    fun chain hchain => OrganizationRegistry.fetch_chain hr hchain,
    fun e => OrganizationRegistry.fetch_eq_error_iff hr, ?_⟩
  · rw [OrganizationRegistry.partOf_iff_recordOrBlank,
      OrganizationRegistry.partOf_ofOrganizations]
  · intro x affiliations hreach hcircle hid
    obtain ⟨chain, hchain⟩ := OrganizationRegistry.exists_fetch_of_circle hr hreach hcircle
    exact Snapshot.exists_inconsistent_take hid hchain
      ((OrganizationRegistry.fetch_chain hr hchain).exists_extend_error hreach hcircle)

-- `a` and `b` lie within each other; `c`, the last parent that is named for `d`, has no record
example :
    let r := OrganizationRegistry.ofOrganizations [.childOf ⟨"d"⟩ ⟨"a"⟩,
      ⟨⟨"a"⟩, none, [⟨"b"⟩, ⟨"d"⟩]⟩, .childOf ⟨"a"⟩ ⟨"b"⟩, .childOf ⟨"d"⟩ ⟨"c"⟩]
    (r.fetch ⟨"a"⟩).map (List.map Organization.id) = .ok [⟨"a"⟩, ⟨"b"⟩] ∧
      r.fetch ⟨"d"⟩ = .error (.notFound ⟨"c"⟩) := by
  decide +kernel

end PublicationIndicator
