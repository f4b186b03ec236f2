import PublicationIndicator.Organization.Arena
import PublicationIndicator.Organization.Snapshot
import PublicationIndicator.Proofs.Organization.Lineage

/-!
# PublicationIndicator.Proofs.Organization.Arena — slots that agree with each other

What an arena writes down more than once, it writes down alike: the index finds just the names in the
slots, a slot refers to a parent just where the parent refers to it, and the records name what the slots
refer to (`Arena.Sound`).  Finding a slot and linking keep this (`Arena.Sound.ensure`,
`Arena.Sound.link`).

An arena represents a forest with the same organizations, parents and parts (`Arena.Represents`).  It
refuses what the forest refuses, for the same reason, and otherwise goes on to represent the forest
(`Arena.Mirrors`): so do links (`mirrors_link`), records with the check for circles (`mirrors_extend`),
lists of records (`mirrors_ofOrganizations`) and snapshots (`exists_take`).  No slot that is referred
to is missing.
-/

namespace PublicationIndicator

namespace Arena

/-! ### What stands in the slots -/

/-- The name in a slot. -/
def id? (a : Arena) (s : Nat) : Option OrganizationId := (a.nodes[s]?).map fun n => n.organization.id

/-- The slot of the parent that a slot refers to. -/
def parent? (a : Arena) (s : Nat) : Option Nat := (a.nodes[s]?).bind Node.parent

/-- The slots of the parts that a slot refers to. -/
def children (a : Arena) (s : Nat) : List Nat := ((a.nodes[s]?).map Node.children).getD []

/-- The parent that the record in a slot names. -/
def partOf? (a : Arena) (s : Nat) : Option OrganizationId :=
  (a.nodes[s]?).bind fun n => n.organization.partOf

/-- The parts that the record in a slot names. -/
def hasPart (a : Arena) (s : Nat) : List OrganizationId :=
  ((a.nodes[s]?).map fun n => n.organization.hasPart).getD []

/-- What is written down more than once is written down alike. -/
structure Sound (a : Arena) : Prop where
  /-- The index finds the names in the slots. -/
  index : ∀ i s, a.index.get? i = some s ↔ a.id? s = some i
  /-- A slot refers to its parent's where the parent's refers to it. -/
  linked : ∀ c p, a.parent? c = some p ↔ c ∈ a.children p
  nodup : ∀ p, (a.children p).Nodup
  /-- The records name what the slots refer to. -/
  partOf : ∀ c, a.partOf? c = (a.parent? c).bind a.id?
  hasPart : ∀ p, (a.hasPart p).map some = (a.children p).map a.id?

variable {a b : Arena} {s t c p : Nat} {i j child parent : OrganizationId}

theorem nodes_eq_some_iff : (∃ n, a.nodes[s]? = some n) ↔ ∃ i, a.id? s = some i := by
  simp [id?]

theorem exists_id?_of_parent? (h : a.parent? s = some p) : ∃ i, a.id? s = some i := by
  obtain ⟨n, hn, -⟩ := Option.bind_eq_some_iff.1 h
  exact nodes_eq_some_iff.1 ⟨n, hn⟩

theorem exists_id?_of_mem_children (h : c ∈ a.children p) : ∃ i, a.id? p = some i := by
  refine nodes_eq_some_iff.1 (Option.ne_none_iff_exists'.1 fun hnone => ?_)
  rw [children, hnone] at h
  cases h

/-- What is read from a slot that is taken. -/
theorem exists_node (h : a.id? s = some i) : ∃ n, a.node s = .ok n ∧
    n.organization = ⟨i, a.partOf? s, a.hasPart s⟩ ∧ n.parent = a.parent? s ∧
    n.children = a.children s := by
  obtain ⟨n, hn⟩ := nodes_eq_some_iff.2 ⟨i, h⟩
  rw [id?, hn] at h
  obtain rfl := Option.some.inj h
  refine ⟨n, ?_, ?_, ?_, ?_⟩
  · rw [node, hn]
  · rw [partOf?, Arena.hasPart, hn]
    rfl
  · rw [parent?, hn]
    rfl
  · rw [children, hn]
    rfl

namespace Sound

variable (h : a.Sound)
include h

/-- No name has two slots. -/
theorem slot_unique (hs : a.id? s = some i) (ht : a.id? t = some i) : s = t := by
  rw [← h.index] at hs ht
  exact Option.some.inj (hs.symm.trans ht)

/-- The slot of a parent is taken. -/
theorem exists_parent (hp : a.parent? c = some p) : ∃ i, a.id? p = some i :=
  exists_id?_of_mem_children ((h.linked c p).1 hp)

/-- The slot of a part is taken. -/
theorem exists_child (hc : c ∈ a.children p) : ∃ i, a.id? c = some i :=
  exists_id?_of_parent? ((h.linked c p).2 hc)

end Sound

theorem sound_empty : empty.Sound where
  index i s := by simp [empty, id?]
  linked c p := by simp [empty, parent?, children]
  nodup p := by simp [empty, children]
  partOf c := by simp [empty, partOf?, parent?]
  hasPart p := by simp [empty, Arena.hasPart, children]

/-! ### A new slot -/

/-- The next slot is not taken. -/
theorem nodes_length (a : Arena) : a.nodes[a.nodes.length]? = none :=
  List.getElem?_eq_none (Nat.le_refl _)

theorem nodes_push : (a.push i).nodes[s]? =
    if s = a.nodes.length then some ⟨.blank i, none, []⟩ else a.nodes[s]? := by
  rw [push]
  rcases Nat.lt_trichotomy s a.nodes.length with hlt | rfl | hgt
  · rw [List.getElem?_append_left hlt, if_neg (Nat.ne_of_lt hlt)]
  · rw [List.getElem?_concat_length, if_pos rfl]
  · rw [if_neg (Nat.ne_of_gt hgt), List.getElem?_eq_none (by simp; omega),
      List.getElem?_eq_none (Nat.le_of_lt hgt)]

theorem index_push : (a.push i).index = a.index.insert i a.nodes.length := rfl

theorem id?_push : (a.push i).id? s = if s = a.nodes.length then some i else a.id? s := by
  rw [id?, nodes_push, id?]
  split <;> rfl

/-- What a new slot refers to is what is read where there is no slot: nothing. -/
theorem view_push {β : Type} (view : Option Node → β)
    (hnew : view (some ⟨.blank i, none, []⟩) = view none) :
    view (a.push i).nodes[s]? = view a.nodes[s]? := by
  rw [nodes_push]
  split
  · rename_i hs
    rw [hs, nodes_length, hnew]
  · rfl

@[simp] theorem parent?_push : (a.push i).parent? s = a.parent? s :=
  view_push (fun n? => n?.bind Node.parent) rfl

@[simp] theorem children_push : (a.push i).children s = a.children s :=
  view_push (fun n? => (n?.map Node.children).getD []) rfl

@[simp] theorem partOf?_push : (a.push i).partOf? s = a.partOf? s := by
  unfold partOf?
  rw [view_push (fun n? : Option Node => n?.bind fun n => n.organization.partOf) rfl]

@[simp] theorem hasPart_push : (a.push i).hasPart s = a.hasPart s := by
  unfold Arena.hasPart
  rw [view_push (fun n? : Option Node => (n?.map fun n => n.organization.hasPart).getD []) rfl]

/-- Slots that are taken keep their names. -/
theorem id?_push_of_some (hs : a.id? s = some j) : (a.push i).id? s = some j := by
  rw [id?_push, if_neg ?_, hs]
  rintro rfl
  rw [id?, nodes_length] at hs
  cases hs

/-- A name without a slot gets the next one. -/
theorem Sound.push (h : a.Sound) (hnone : a.index.get? i = none) : (a.push i).Sound where
  index j s := by
    rw [id?_push, Arena.push]
    dsimp only
    by_cases hj : j = i
    · subst hj
      rw [SortedMap.get?_insert_self]
      constructor
      · intro hs
        rw [if_pos (Option.some.inj hs).symm]
      · intro hs
        split at hs
        · rename_i heq
          rw [heq]
        · rw [← h.index, hnone] at hs
          cases hs
    · rw [SortedMap.get?_insert_of_ne hj, h.index]
      split
      · rename_i hs
        rw [id?, hs, nodes_length]
        constructor
        · intro hj'
          cases hj'
        · intro hj'
          exact absurd (Option.some.inj hj').symm hj
      · rfl
  linked c p := by
    rw [parent?_push, children_push]
    exact h.linked c p
  nodup p := by
    rw [children_push]
    exact h.nodup p
  partOf c := by
    rw [partOf?_push, parent?_push, h.partOf]
    cases hp : a.parent? c with
    | none => rfl
    | some p =>
      obtain ⟨j, hj⟩ := h.exists_parent hp
      rw [Option.bind_some, Option.bind_some, hj, id?_push_of_some hj]
  hasPart p := by
    rw [hasPart_push, children_push, h.hasPart]
    refine List.map_congr_left fun c hc => ?_
    obtain ⟨j, hj⟩ := h.exists_child hc
    rw [hj, id?_push_of_some hj]

/-- Finding the slot of a name, or giving it one, keeps what is written down, and finds the name's slot. -/
theorem Sound.ensure (h : a.Sound) (i : OrganizationId) : (a.ensure i).1.Sound ∧
    (a.ensure i).1.id? (a.ensure i).2 = some i ∧
    ∀ s j, a.id? s = some j → (a.ensure i).1.id? s = some j := by
  unfold Arena.ensure
  cases hi : a.index.get? i with
  | some s => exact ⟨h, (h.index i s).1 hi, fun _ _ hs => hs⟩
  | none =>
    refine ⟨h.push hi, ?_, fun s j hs => id?_push_of_some hs⟩
    show (a.push i).id? a.nodes.length = some i
    rw [id?_push, if_pos rfl]

/-! ### A new link -/

section

variable {β : Type} (view : Option Node → β) (f : Node → Node)

theorem view_modify : view (a.modify s f).nodes[t]? =
    if t = s then view ((a.nodes[s]?).map f) else view a.nodes[t]? := by
  rw [modify]
  dsimp only
  rw [List.getElem?_modify]
  by_cases hst : t = s
  · rw [if_pos hst, hst]
    simp
  · rw [if_neg hst]
    simp [Ne.symm hst]

/-- What a change leaves as it is stays as it is in all slots. -/
theorem view_modify_of_keeps (hf : ∀ n, view (some (f n)) = view (some n)) :
    view (a.modify s f).nodes[t]? = view a.nodes[t]? := by
  rw [view_modify view f]
  split
  · rename_i hst
    rw [hst]
    cases a.nodes[s]? with
    | none => rfl
    | some n => exact hf n
  · rfl

end

theorem id?_modify (f : Node → Node) (hf : ∀ n, (f n).organization.id = n.organization.id) :
    (a.modify s f).id? t = a.id? t := by
  unfold id?
  rw [view_modify_of_keeps (fun n? : Option Node => n?.map fun n => n.organization.id) f
    fun n => congrArg some (hf n)]

section

variable (s p : Nat) (child parent : OrganizationId)

@[simp] theorem id?_join : (a.join s p child parent).id? t = a.id? t :=
  (id?_modify (.addChild s child) fun _ => rfl).trans (id?_modify (.setParent p parent) fun _ => rfl)

/-- The part refers to the parent. -/
theorem parent?_join (hs : a.id? s = some i) :
    (a.join s p child parent).parent? t = if t = s then some p else a.parent? t := by
  obtain ⟨n, hn⟩ := nodes_eq_some_iff.2 ⟨i, hs⟩
  unfold parent? join
  rw [view_modify_of_keeps (fun n? => n?.bind Node.parent) (Node.addChild s child) fun _ => rfl,
    view_modify (fun n? => n?.bind Node.parent), hn]
  rfl

/-- The record of the part names the parent. -/
theorem partOf?_join (hs : a.id? s = some i) :
    (a.join s p child parent).partOf? t = if t = s then some parent else a.partOf? t := by
  obtain ⟨n, hn⟩ := nodes_eq_some_iff.2 ⟨i, hs⟩
  unfold partOf? join
  rw [view_modify_of_keeps (fun n? : Option Node => n?.bind fun n => n.organization.partOf)
      (Node.addChild s child) fun _ => rfl,
    view_modify (fun n? : Option Node => n?.bind fun n => n.organization.partOf), hn]
  rfl

/-- The parent refers to one more part. -/
theorem children_join (hp : a.id? p = some i) : (a.join s p child parent).children t =
    if t = p then a.children p ++ [s] else a.children t := by
  have hsame : ∀ t, (a.modify s (.setParent p parent)).children t = a.children t := fun t =>
    view_modify_of_keeps (fun n? => (n?.map Node.children).getD []) (Node.setParent p parent) fun _ => rfl
  have hname : (a.modify s (.setParent p parent)).id? p = some i :=
    (id?_modify (.setParent p parent) fun _ => rfl).trans hp
  obtain ⟨n, hn⟩ := nodes_eq_some_iff.2 ⟨i, hname⟩
  rw [← hsame p, ← hsame t]
  unfold children join
  rw [view_modify (fun n? => (n?.map Node.children).getD []), hn]
  rfl

/-- The record of the parent names one more part, if it did not before. -/
theorem hasPart_join (hp : a.id? p = some i) (hnew : child ∉ a.hasPart p) :
    (a.join s p child parent).hasPart t =
      if t = p then a.hasPart p ++ [child] else a.hasPart t := by
  have hsame : ∀ t, (a.modify s (.setParent p parent)).hasPart t = a.hasPart t := by
    intro t
    unfold Arena.hasPart
    rw [view_modify_of_keeps (fun n? : Option Node => (n?.map fun n => n.organization.hasPart).getD [])
      (Node.setParent p parent) fun _ => rfl]
  have hname : (a.modify s (.setParent p parent)).id? p = some i :=
    (id?_modify (.setParent p parent) fun _ => rfl).trans hp
  obtain ⟨n, hn⟩ := nodes_eq_some_iff.2 ⟨i, hname⟩
  rw [← hsame p] at hnew ⊢
  rw [← hsame t]
  unfold Arena.hasPart join at *
  rw [view_modify (fun n? : Option Node => (n?.map fun n => n.organization.hasPart).getD []), hn]
  rw [hn] at hnew
  change child ∉ n.organization.hasPart at hnew
  show (if t = p then (if child ∈ n.organization.hasPart then _ else _) else _) = _
  rw [if_neg hnew]
  rfl

end

/-- The slot of a part is found among those of a parent whose record names it. -/
theorem Sound.mem_hasPart_iff (h : a.Sound) (hs : a.id? s = some i) :
    i ∈ a.hasPart p ↔ s ∈ a.children p := by
  have hnames : i ∈ a.hasPart p ↔ some i ∈ (a.hasPart p).map some := by simp
  rw [hnames, h.hasPart, List.mem_map]
  constructor
  · rintro ⟨t, ht, hti⟩
    rwa [h.slot_unique hs hti]
  · intro hmem
    exact ⟨s, hmem, hs⟩

/-- Writing a link down keeps all alike, if the part had no parent. -/
theorem Sound.join (h : a.Sound) (hs : a.id? s = some child) (hp : a.id? p = some parent)
    (hnone : a.parent? s = none) : (a.join s p child parent).Sound := by
  have hlone : ∀ t, s ∉ a.children t := fun t hmem => by
    rw [← h.linked, hnone] at hmem
    cases hmem
  have hnew : child ∉ a.hasPart p := mt (h.mem_hasPart_iff hs).1 (hlone p)
  constructor
  · intro i t
    rw [id?_join]
    exact h.index i t
  · intro c q
    rw [parent?_join s p child parent hs, children_join s p child parent hp]
    by_cases hc : c = s
    · subst hc
      rw [if_pos rfl, Option.some.injEq]
      by_cases hq : q = p
      · simp [hq]
      · simp [hq, Ne.symm hq, hlone q]
    · rw [if_neg hc, h.linked]
      by_cases hq : q = p
      · simp [hq, hc]
      · rw [if_neg hq]
  · intro q
    rw [children_join s p child parent hp]
    split
    · exact List.nodup_append.2 ⟨h.nodup p, List.nodup_singleton s, by
        rintro c hc _ hs rfl
        exact hlone p (List.mem_singleton.1 hs ▸ hc)⟩
    · exact h.nodup q
  · intro c
    have hid : (a.join s p child parent).id? = a.id? := funext fun _ => id?_join s p child parent
    rw [partOf?_join s p child parent hs, parent?_join s p child parent hs, hid]
    split
    · exact hp.symm
    · exact h.partOf c
  · intro q
    have hid : (a.join s p child parent).id? = a.id? := funext fun _ => id?_join s p child parent
    rw [hasPart_join s p child parent hp hnew, children_join s p child parent hp, hid]
    split
    · rw [List.map_append, List.map_append, h.hasPart, List.map_singleton, List.map_singleton, hs]
    · exact h.hasPart q

/-! ### Linking -/

/-- All that linking slots can do: it finds that the part has a parent already, and goes on if this is the
one, or it writes the link down. -/
theorem linkSlots_cases (h : a.Sound) (hs : a.id? s = some child) (hp : a.id? p = some parent) :
    (∃ q first, a.parent? s = some q ∧ a.id? q = some first ∧ a.linkSlots s p child parent =
      if q = p then .ok a else .error (.refused (.conflictingParents child first parent))) ∨
    a.parent? s = none ∧ a.linkSlots s p child parent = .ok (a.join s p child parent) := by
  obtain ⟨n, hn, -, hparent, -⟩ := exists_node hs
  rw [linkSlots, hn]
  dsimp only [bind, Except.bind]
  cases hq : a.parent? s with
  | some q =>
    obtain ⟨first, hfirst⟩ := h.exists_parent hq
    obtain ⟨m, hm, horganization, -⟩ := exists_node hfirst
    refine .inl ⟨q, first, rfl, hfirst, ?_⟩
    rw [hparent, hq]
    dsimp only
    by_cases hqp : q = p
    · rw [if_pos hqp, if_pos hqp]
      rfl
    · rw [if_neg hqp, if_neg hqp, hm]
      show Except.error _ = _
      rw [horganization]
  | none =>
    obtain ⟨m, hm, -⟩ := exists_node hp
    refine .inr ⟨rfl, ?_⟩
    rw [hparent, hq]
    dsimp only
    rw [hm]
    rfl

/-- Linking slots keeps all alike. -/
theorem Sound.linkSlots (h : a.Sound) (hs : a.id? s = some child) (hp : a.id? p = some parent)
    (hb : a.linkSlots s p child parent = .ok b) : b.Sound := by
  obtain ⟨q, first, -, -, hlink⟩ | ⟨hnone, hlink⟩ := linkSlots_cases h hs hp
  · rw [hlink] at hb
    split at hb
    · cases hb
      exact h
    · cases hb
  · rw [hlink] at hb
    cases hb
    exact h.join hs hp hnone

/-- Two names get slots, one after the other. -/
theorem Sound.ensure_both (h : a.Sound) (child parent : OrganizationId) :
    ((a.ensure child).1.ensure parent).1.Sound ∧
    ((a.ensure child).1.ensure parent).1.id? (a.ensure child).2 = some child ∧
    ((a.ensure child).1.ensure parent).1.id? ((a.ensure child).1.ensure parent).2 = some parent := by
  obtain ⟨hb, hs, -⟩ := h.ensure child
  obtain ⟨hc, hp, hkeep⟩ := hb.ensure parent
  exact ⟨hc, hkeep _ _ hs, hp⟩

/-- Linking keeps all alike. -/
theorem Sound.link (h : a.Sound) (hb : a.link child parent = .ok b) : b.Sound := by
  obtain ⟨hc, hs, hp⟩ := h.ensure_both child parent
  rw [Arena.link] at hb
  split at hb
  · cases hb
  · exact hc.linkSlots hs hp hb

/-! ### Forests -/

/-- An arena represents a forest of the same organizations, whose records are those in the slots. -/
structure Represents (a : Arena) (f : Forest) : Prop where
  sound : a.Sound
  ids : a.nodes.map (fun n => n.organization.id) = f.ids
  partOf : ∀ i, (a.index.get? i).bind a.partOf? = f.parent? i
  hasPart : ∀ i, (a.index.get? i).elim [] a.hasPart = f.parts i

variable {f g : Forest}

namespace Represents

variable (h : a.Represents f)
include h

/-- The record of an organization names the parent that its slot refers to. -/
theorem parent_of_slot (hs : a.id? s = some i) : (a.parent? s).bind a.id? = f.parent? i := by
  rw [← h.sound.partOf, ← h.partOf, (h.sound.index i s).2 hs, Option.bind_some]

/-- The record of an organization names the parts that its slot refers to. -/
theorem parts_of_slot (hs : a.id? s = some i) : (a.children s).map a.id? = (f.parts i).map some := by
  rw [← h.sound.hasPart, ← h.hasPart, (h.sound.index i s).2 hs, Option.elim_some]

theorem getElem?_ids (s : Nat) : f.ids[s]? = a.id? s := by
  rw [← h.ids, List.getElem?_map, id?]

theorem mem_ids_iff : i ∈ f.ids ↔ ∃ s, a.index.get? i = some s := by
  simp only [List.mem_iff_getElem?, h.getElem?_ids, h.sound.index]

theorem length_ids : f.ids.length = a.nodes.length := by
  rw [← h.ids, List.length_map]

end Represents

theorem represents_empty : empty.Represents Forest.empty where
  sound := sound_empty
  ids := rfl
  partOf _ := rfl
  hasPart _ := rfl

/-- Giving a slot to a name is taking note of it: the slot refers to nothing yet, and the forest links
nothing that it does not mention. -/
theorem Represents.push (h : a.Represents f) (hnone : a.index.get? i = none) :
    (a.push i).Represents { f with ids := f.ids ++ [i] } where
  sound := h.sound.push hnone
  ids := by
    rw [Arena.push, List.map_append, h.ids]
    rfl
  partOf j := by
    rw [index_push, Forest.parent?]
    change _ = f.parent? j
    rw [← h.partOf]
    by_cases hj : j = i
    · rw [hj, SortedMap.get?_insert_self, hnone, Option.bind_some, partOf?_push, partOf?, nodes_length]
      rfl
    · rw [SortedMap.get?_insert_of_ne hj]
      exact Option.bind_congr fun s _ => partOf?_push
  hasPart j := by
    rw [index_push, Forest.parts]
    change _ = f.parts j
    rw [← h.hasPart]
    by_cases hj : j = i
    · rw [hj, SortedMap.get?_insert_self, hnone, Option.elim_some, hasPart_push, Arena.hasPart,
        nodes_length]
      rfl
    · rw [SortedMap.get?_insert_of_ne hj]
      cases a.index.get? j with
      | none => rfl
      | some s => exact hasPart_push

/-- Finding the slot of a name, or giving it one, is taking note of it. -/
theorem Represents.ensure (h : a.Represents f) (i : OrganizationId) :
    (a.ensure i).1.Represents (f.mention i) := by
  have hmem := h.mem_ids_iff (i := i)
  rw [Forest.mention, Arena.ensure]
  cases hi : a.index.get? i with
  | some s =>
    rw [if_pos (hmem.2 ⟨s, hi⟩)]
    exact h
  | none =>
    rw [if_neg (by simp [hmem, hi])]
    exact h.push hi

/-- One more link gives a parent to what had none. -/
theorem parent?_concat (f : Forest) : ({ f with links := f.links ++ [(child, parent)] } : Forest).parent? j =
    (f.parent? j).or (if child = j then some parent else none) := by
  simp only [Forest.parent?, List.find?_append, Option.map_or]
  by_cases hj : child = j <;> simp [hj]

/-- One more link is a part more. -/
theorem parts_concat (f : Forest) : ({ f with links := f.links ++ [(child, parent)] } : Forest).parts j =
    f.parts j ++ if parent = j then [child] else [] := by
  simp only [Forest.parts, List.filter_append, List.map_append]
  by_cases hj : parent = j <;> simp [hj]

/-- Writing a link down is putting it behind the others. -/
theorem Represents.join (h : a.Represents f) (hs : a.id? s = some child) (hp : a.id? p = some parent)
    (hnone : a.parent? s = none) :
    (a.join s p child parent).Represents { f with links := f.links ++ [(child, parent)] } where
  sound := h.sound.join hs hp hnone
  ids := by
    refine Eq.trans (List.ext_getElem? fun t => ?_) h.ids
    rw [List.getElem?_map, List.getElem?_map]
    exact id?_join s p child parent
  partOf j := by
    rw [parent?_concat, ← h.partOf]
    change (a.index.get? j).bind _ = _
    by_cases hj : child = j
    · subst hj
      rw [(h.sound.index child s).2 hs, Option.bind_some, Option.bind_some, h.sound.partOf, hnone,
        partOf?_join s p child parent hs, if_pos rfl, if_pos rfl]
      rfl
    · rw [if_neg hj, Option.or_none]
      refine Option.bind_congr fun t ht => ?_
      rw [partOf?_join s p child parent hs, if_neg ?_]
      rintro rfl
      rw [h.sound.index, hs] at ht
      exact hj (Option.some.inj ht)
  hasPart j := by
    have hnew : child ∉ a.hasPart p := by
      rw [h.sound.mem_hasPart_iff hs, ← h.sound.linked, hnone]
      intro hq
      cases hq
    rw [parts_concat, ← h.hasPart]
    change (a.index.get? j).elim [] _ = _
    by_cases hj : parent = j
    · subst hj
      rw [(h.sound.index parent p).2 hp, Option.elim_some, Option.elim_some,
        hasPart_join s p child parent hp hnew, if_pos rfl, if_pos rfl]
    · rw [if_neg hj, List.append_nil]
      cases ht : a.index.get? j with
      | none => rfl
      | some t =>
        rw [Option.elim_some, Option.elim_some, hasPart_join s p child parent hp hnew, if_neg ?_]
        rintro rfl
        rw [h.sound.index, hp] at ht
        exact hj (Option.some.inj ht)

/-! ### Building -/

/-- An arena does what a forest or a hierarchy does: it refuses with the same error, or its result stands in
a relation to the other.  It meets no slot that is missing and no walk without an end. -/
inductive Mirrors {α β : Type} (R : α → β → Prop) : Except ArenaError α → Except HierarchyError β → Prop
  | refused (e : HierarchyError) : Mirrors R (.error (.refused e)) (.error e)
  | answered {x : α} {y : β} (hxy : R x y) : Mirrors R (.ok x) (.ok y)

theorem Mirrors.bind {α β γ δ : Type} {R : α → β → Prop} {S : γ → δ → Prop} {x : Except ArenaError α}
    {y : Except HierarchyError β} {k : α → Except ArenaError γ} {l : β → Except HierarchyError δ}
    (hxy : Mirrors R x y) (hkl : ∀ a b, R a b → Mirrors S (k a) (l b)) : Mirrors S (x >>= k) (y >>= l) := by
  cases hxy with
  | refused e => exact .refused e
  | answered hab => exact hkl _ _ hab

/-- What mirrors at each step mirrors along a list. -/
theorem Mirrors.foldlM {α β γ : Type} {R : α → β → Prop} {k : α → γ → Except ArenaError α}
    {l : β → γ → Except HierarchyError β} (hkl : ∀ a b c, R a b → Mirrors R (k a c) (l b c))
    (cs : List γ) {a : α} {b : β} (hab : R a b) : Mirrors R (cs.foldlM k a) (cs.foldlM l b) := by
  induction cs generalizing a b with
  | nil => exact .answered hab
  | cons c cs ih =>
    rw [List.foldlM_cons, List.foldlM_cons]
    exact (hkl a b c hab).bind fun a b hab => ih hab

theorem mirrors_link (h : a.Represents f) (child parent : OrganizationId) :
    Mirrors Represents (a.link child parent) (f.link child parent) := by
  rw [link, Forest.link]
  by_cases hne : child = parent
  · rw [if_pos hne, if_pos hne]
    exact .refused _
  rw [if_neg hne, if_neg hne]
  obtain ⟨-, hs, hp⟩ := h.sound.ensure_both child parent
  have hb := (h.ensure child).ensure parent
  have hparent := hb.parent_of_slot hs
  dsimp only
  obtain ⟨q, first, hq, hfirst, hlink⟩ | ⟨hnone, hlink⟩ := linkSlots_cases hb.sound hs hp
  · rw [hq, Option.bind_some, hfirst] at hparent
    rw [hlink, ← hparent]
    dsimp only
    by_cases hqp : q = ((a.ensure child).1.ensure parent).2
    · rw [hqp, hp] at hfirst
      rw [if_pos hqp, if_pos (Option.some.inj hfirst).symm]
      exact .answered hb
    · rw [if_neg hqp, if_neg ?_]
      · exact .refused _
      · rintro rfl
        exact hqp (hb.sound.slot_unique hfirst hp)
  · rw [hnone, Option.bind_none] at hparent
    rw [hlink, ← hparent]
    exact .answered (hb.join hs hp hnone)

theorem mirrors_add (h : a.Represents f) (o : Organization) :
    Mirrors Represents (a.add o) (f.add o) :=
  Mirrors.foldlM (fun _ _ l h => mirrors_link h l.1 l.2) o.links (h.ensure o.id)

theorem mirrors_addAll (h : a.Represents f) (os : List Organization) :
    Mirrors Represents (os.foldlM add a) (f.addAll os) :=
  Mirrors.foldlM (fun _ _ o h => mirrors_add h o) os h

/-! ### Walking up -/

/-- One step up. -/
theorem climb_eq (hs : a.id? s = some i) (n : Nat) : a.climb n s =
    match a.parent? s, n with
    | none, _ => .ok s
    | some _, 0 => .error .endless
    | some p, n + 1 => a.climb n p := by
  obtain ⟨m, hm, -, hparent, -⟩ := exists_node hs
  cases n <;>
  · rw [climb, hm]
    dsimp only [bind, Except.bind]
    rw [hparent]
    cases a.parent? s <;> rfl

/-- Walking up from a slot comes to the top that the forest knows, or goes on for too long where the
forest knows none. -/
theorem climb_cases (h : a.Represents f) (n : Nat) (hs : a.id? s = some i) :
    (f.root? n i = none ∧ a.climb n s = .error .endless) ∨
    ∃ r t, f.root? n i = some r ∧ a.climb n s = .ok t ∧ a.id? t = some r := by
  have hup := h.parent_of_slot hs
  induction n generalizing s i with
  | zero =>
    rw [Forest.root?, ← hup, climb_eq hs]
    cases hp : a.parent? s with
    | none => exact .inr ⟨i, s, rfl, rfl, hs⟩
    | some p =>
      obtain ⟨j, hj⟩ := h.sound.exists_parent hp
      rw [Option.bind_some, hj]
      exact .inl ⟨rfl, rfl⟩
  | succ n ih =>
    rw [Forest.root?, ← hup, climb_eq hs]
    cases hp : a.parent? s with
    | none => exact .inr ⟨i, s, rfl, rfl, hs⟩
    | some p =>
      obtain ⟨j, hj⟩ := h.sound.exists_parent hp
      rw [Option.bind_some, hj]
      exact ih hj (h.parent_of_slot hj)

/-- From a slot whose parents go on for too long, the check fails with its name. -/
theorem checkFrom_eq (h : a.Represents f) (hs : a.id? s = some i) : a.checkFrom s =
    if (f.root? f.ids.length i).isNone then .error (.refused (.cycle i)) else .ok () := by
  rw [checkFrom, h.length_ids]
  obtain ⟨hnone, herr⟩ | ⟨r, t, hr, hok, -⟩ := climb_cases h a.nodes.length hs
  · obtain ⟨m, hm, horganization, -⟩ := exists_node hs
    rw [herr, hnone, hm]
    show Except.error (ArenaError.refused (HierarchyError.cycle m.organization.id)) = _
    rw [horganization]
    rfl
  · rw [hok, hr]
    rfl

/-- A check along slots fails with the first of their names from which the parents go on for too long. -/
theorem forM_checkFrom (h : a.Represents f) {slots : List Nat} {is : List OrganizationId}
    (his : slots.map a.id? = is.map some) : slots.forM a.checkFrom =
      match is.find? fun i => (f.root? f.ids.length i).isNone with
      | some i => .error (.refused (.cycle i))
      | none => .ok () := by
  induction slots generalizing is with
  | nil =>
    obtain rfl : is = [] := by simpa using his.symm
    rfl
  | cons s slots ih =>
    cases is with
    | nil => cases his
    | cons i is =>
      obtain ⟨hs, his⟩ := List.cons.inj his
      rw [List.forM_eq_forM, List.forM_cons, checkFrom_eq h hs, List.find?_cons, ← List.forM_eq_forM]
      by_cases hnone : (f.root? f.ids.length i).isNone
      · rw [if_pos hnone, hnone]
        rfl
      · rw [if_neg hnone, Bool.eq_false_iff.2 hnone]
        exact ih his

/-- The slots have the names of the forest, in their order. -/
theorem Represents.map_range (h : a.Represents f) :
    (List.range a.nodes.length).map a.id? = f.ids.map some := by
  refine List.ext_getElem? fun t => ?_
  rw [List.getElem?_map, List.getElem?_map, h.getElem?_ids]
  by_cases ht : t < a.nodes.length
  · obtain ⟨i, hi⟩ := nodes_eq_some_iff.1 ⟨_, List.getElem?_eq_getElem ht⟩
    rw [List.getElem?_range ht, Option.map_some, hi, Option.map_some]
  · have hnone : a.nodes[t]? = none := List.getElem?_eq_none (Nat.not_lt.1 ht)
    rw [List.getElem?_eq_none (by simpa using ht), id?, hnone]
    rfl

/-- The check fails where the forest is not settled. -/
theorem checkAcyclic_eq (h : a.Represents f) : a.checkAcyclic =
    match f.unsettled? with
    | some i => .error (.refused (.cycle i))
    | none => .ok () :=
  forM_checkFrom h h.map_range

/-- An arena takes in what the forest takes in, and refuses what that refuses. -/
theorem mirrors_extend (h : a.Represents f) (os : List Organization) :
    Mirrors Represents (a.extend os) (f.extend os) := by
  have hadd := mirrors_addAll h os
  rw [extend, Forest.extend]
  generalize os.foldlM add a = x, f.addAll os = y at hadd ⊢
  cases hadd with
  | refused e => exact .refused e
  | @answered b g hbg =>
    show Mirrors Represents (b.checkAcyclic >>= fun _ => pure b) _
    rw [checkAcyclic_eq hbg]
    dsimp only
    cases g.unsettled? with
    | some i => exact .refused (.cycle i)
    | none => exact .answered hbg

/-! ### Hierarchies and snapshots -/

/-- An arena that represents a hierarchy goes on to do so. -/
theorem mirrors_extend_hierarchy {h : Hierarchy} (ha : a.Represents h.forest) (os : List Organization) :
    Mirrors (fun b k => b.Represents k.forest) (a.extend os) (h.extend os) := by
  have hextend := mirrors_extend ha os
  cases hk : h.extend os with
  | ok k =>
    rw [Hierarchy.extend_eq_ok_iff.1 hk] at hextend
    generalize a.extend os = x at hextend
    cases hextend with
    | answered hb => exact .answered hb
  | error e =>
    rw [Hierarchy.extend_eq_error_iff.1 hk] at hextend
    generalize a.extend os = x at hextend
    cases hextend with
    | refused e => exact .refused e

/-- A list of records makes an arena where it makes a hierarchy, and this represents it. -/
theorem mirrors_ofOrganizations (os : List Organization) :
    Mirrors (fun a h => a.Represents h.forest) (ofOrganizations os) (Hierarchy.ofOrganizations os) :=
  mirrors_extend_hierarchy (h := .empty) represents_empty os

/-- A snapshot in an arena has the arena of a snapshot's hierarchy and the same failures. -/
structure Snapshot.Follows (s : Arena.Snapshot) (t : PublicationIndicator.Snapshot) : Prop where
  arena : s.arena.Represents t.hierarchy.forest
  failures : s.failures = t.failures

/-- An answer is taken in, or it fails, just as in a snapshot. -/
theorem Snapshot.Follows.receive {s : Arena.Snapshot} {t : PublicationIndicator.Snapshot}
    (h : s.Follows t) (i : OrganizationId) (answer : Except FetchError (List Organization)) :
    ∃ s', s.receive i answer = .ok s' ∧ s'.Follows (t.receive i answer) := by
  unfold Arena.Snapshot.receive PublicationIndicator.Snapshot.receive
  cases answer with
  | error e => exact ⟨_, rfl, h.arena, by rw [h.failures]⟩
  | ok chain =>
    have hextend := mirrors_extend_hierarchy h.arena chain
    dsimp only
    generalize s.arena.extend chain = x, t.hierarchy.extend chain = y at hextend ⊢
    cases hextend with
    | refused e => exact ⟨_, rfl, h.arena, by rw [h.failures]⟩
    | answered hbk => exact ⟨_, rfl, hbk, h.failures⟩

/-- Asking for affiliations one after the other makes the arena of the snapshot. -/
theorem exists_asked (provider : OrganizationProvider) (affiliations : List OrganizationId)
    {q : Arena.Inquiry} {r : PublicationIndicator.Snapshot.Inquiry} (hrequested : q.requested = r.requested)
    (hsnapshot : q.snapshot.Follows r.snapshot) :
    ∃ q', affiliations.foldlM (Arena.Inquiry.ask provider) q = .ok q' ∧ q'.snapshot.Follows
      (Id.run (affiliations.foldlM
        (PublicationIndicator.Snapshot.Inquiry.ask fun id => pure (provider id)) r)).snapshot := by
  induction affiliations generalizing q r with
  | nil => exact ⟨q, rfl, hsnapshot⟩
  | cons i affiliations ih =>
    rw [List.foldlM_cons, List.foldlM_cons, Arena.Inquiry.ask, PublicationIndicator.Snapshot.Inquiry.ask,
      hrequested]
    by_cases hi : i ∈ r.requested
    · rw [if_pos hi, if_pos hi]
      exact ih hrequested hsnapshot
    · obtain ⟨s, hs, hfollows⟩ := hsnapshot.receive i (provider i)
      rw [if_neg hi, if_neg hi, hs]
      exact ih rfl hfollows

/-- A snapshot is always taken, with the arena of the snapshot's hierarchy and the same failures. -/
theorem exists_take (provider : OrganizationProvider) (affiliations : List OrganizationId) :
    ∃ s, take provider affiliations = .ok s ∧
      s.Follows (PublicationIndicator.Snapshot.take provider affiliations) := by
  obtain ⟨q, hq, hfollows⟩ := exists_asked provider affiliations
    (q := ⟨.empty, .empty, []⟩) (r := ⟨.empty, .empty⟩) rfl ⟨represents_empty, rfl⟩
  refine ⟨q.snapshot, ?_, hfollows⟩
  rw [take, hq]
  rfl

end Arena

end PublicationIndicator
