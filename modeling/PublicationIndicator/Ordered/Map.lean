import PublicationIndicator.Ordered.Key

/-!
# PublicationIndicator.Ordered.Map — finite maps listed in order of their keys

A `SortedMap` is the list of its entries with strictly ascending keys, so that a map has one form
only: two maps with the same answers are equal (`ext_get?`).
-/

namespace PublicationIndicator

/-- A finite map, held as the list of its entries in strictly ascending order of their keys. -/
structure SortedMap (κ α : Type) [Keyed κ] where
  /-- The entries in ascending order. -/
  entries : List (κ × α)
  /-- Each key comes before all that follow it. -/
  ascending : entries.Pairwise (fun a b => key a.1 < key b.1)

namespace SortedMap

variable {κ α β : Type} [Keyed κ]

theorem ext {m n : SortedMap κ α} (h : m.entries = n.entries) : m = n := by
  cases m; cases n; cases h; rfl

instance [DecidableEq κ] [DecidableEq α] : DecidableEq (SortedMap κ α) := fun m n =>
  if h : m.entries = n.entries then isTrue (ext h) else isFalse (fun e => h (e ▸ rfl))

/-- The map without entries. -/
def empty : SortedMap κ α := ⟨[], .nil⟩

/-- How many entries there are. -/
def size (m : SortedMap κ α) : Nat := m.entries.length

/-- The keys in ascending order. -/
def keys (m : SortedMap κ α) : List κ := m.entries.map (·.1)

/-- The values in the order of their keys. -/
def values (m : SortedMap κ α) : List α := m.entries.map (·.2)

/-! ### Look-up -/

/-- The value that a list of entries has under `k`. -/
def lookupIn (k : κ) : List (κ × α) → Option α
  | [] => none
  | (k', v) :: rest => if key k = key k' then some v else lookupIn k rest

/-- The value under `k`. -/
def get? (m : SortedMap κ α) (k : κ) : Option α := lookupIn k m.entries

/-- Is there a value under `k`? -/
def contains (m : SortedMap κ α) (k : κ) : Bool := (m.get? k).isSome

@[simp] theorem get?_empty (k : κ) : (empty : SortedMap κ α).get? k = none := rfl

theorem lookupIn_append (k : κ) (l l' : List (κ × α)) :
    lookupIn k (l ++ l') = (lookupIn k l).or (lookupIn k l') := by
  induction l with
  | nil => rfl
  | cons e rest ih =>
    obtain ⟨k', v⟩ := e
    rw [List.cons_append, lookupIn, lookupIn, ih]
    split <;> rfl

theorem lookupIn_eq_none {k : κ} {l : List (κ × α)} (h : ∀ e ∈ l, e.1 ≠ k) :
    lookupIn k l = none := by
  induction l with
  | nil => rfl
  | cons e rest ih =>
    obtain ⟨k', v⟩ := e
    have hk : key k ≠ key k' := fun h' => h (k', v) (by simp) (key_inj.1 h').symm
    rw [lookupIn, if_neg hk]
    exact ih (fun e he => h e (List.mem_cons_of_mem _ he))

theorem mem_of_lookupIn {k : κ} {v : α} {l : List (κ × α)} (h : lookupIn k l = some v) :
    (k, v) ∈ l := by
  induction l with
  | nil => simp [lookupIn] at h
  | cons e rest ih =>
    obtain ⟨k', v'⟩ := e
    rw [lookupIn] at h
    split at h
    · rename_i hk
      obtain rfl := key_inj.1 hk
      obtain rfl := Option.some.inj h
      simp
    · exact List.mem_cons_of_mem _ (ih h)

/-- Where no key stands twice, each entry is found. -/
theorem lookupIn_of_mem_of_nodup {k : κ} {v : α} {l : List (κ × α)} (hn : (l.map (·.1)).Nodup)
    (h : (k, v) ∈ l) : lookupIn k l = some v := by
  induction l with
  | nil => simp at h
  | cons e rest ih =>
    obtain ⟨k', v'⟩ := e
    obtain ⟨hk', hn⟩ := List.nodup_cons.1 hn
    rw [lookupIn]
    rcases List.mem_cons.1 h with he | he
    · cases he
      simp
    · have hk : key k ≠ key k' := fun hk =>
        hk' (List.mem_map.2 ⟨(k, v), he, key_inj.1 hk⟩)
      rw [if_neg hk]
      exact ih hn he

theorem lookupIn_of_mem {k : κ} {v : α} {l : List (κ × α)}
    (hs : l.Pairwise (fun a b => key a.1 < key b.1)) (h : (k, v) ∈ l) : lookupIn k l = some v := by
  refine lookupIn_of_mem_of_nodup (List.pairwise_map.2 (hs.imp fun hlt heq => ?_)) h
  exact not_key_lt_self (heq ▸ hlt)

/-- The entries are the pairs that look-up answers. -/
theorem mem_entries_iff {m : SortedMap κ α} {k : κ} {v : α} :
    (k, v) ∈ m.entries ↔ m.get? k = some v :=
  ⟨lookupIn_of_mem m.ascending, mem_of_lookupIn⟩

theorem mem_keys_iff {m : SortedMap κ α} {k : κ} : k ∈ m.keys ↔ ∃ v, m.get? k = some v := by
  simp [keys, ← mem_entries_iff]

theorem ascending_keys (m : SortedMap κ α) : m.keys.Pairwise (fun k k' => key k < key k') :=
  List.pairwise_map.2 m.ascending

/-! ### Insertion -/

/-- Puts a value under `k` into an ascending list, in place of one that is there already. -/
def insertIn (k : κ) (v : α) : List (κ × α) → List (κ × α)
  | [] => [(k, v)]
  | (k', v') :: rest =>
    if key k < key k' then (k, v) :: (k', v') :: rest
    else if key k = key k' then (k, v) :: rest
    else (k', v') :: insertIn k v rest

theorem mem_of_mem_insertIn {k : κ} {v : α} {e : κ × α} {l : List (κ × α)}
    (h : e ∈ insertIn k v l) : e = (k, v) ∨ e ∈ l := by
  induction l with
  | nil => simpa [insertIn] using h
  | cons e' rest ih =>
    obtain ⟨k', v'⟩ := e'
    rw [insertIn] at h
    split at h
    · simpa using h
    · split at h
      · rcases List.mem_cons.1 h with h | h
        · exact .inl h
        · exact .inr (List.mem_cons_of_mem _ h)
      · rcases List.mem_cons.1 h with rfl | h
        · simp
        · exact (ih h).imp id (List.mem_cons_of_mem _)

theorem ascending_insertIn {k : κ} {v : α} {l : List (κ × α)}
    (h : l.Pairwise (fun a b => key a.1 < key b.1)) :
    (insertIn k v l).Pairwise (fun a b => key a.1 < key b.1) := by
  induction l with
  | nil => simp [insertIn]
  | cons e rest ih =>
    obtain ⟨k', v'⟩ := e
    obtain ⟨hlt, hs⟩ := List.pairwise_cons.1 h
    rw [insertIn]
    split
    · rename_i hk
      refine List.pairwise_cons.2 ⟨fun x hx => ?_, h⟩
      rcases List.mem_cons.1 hx with rfl | hx
      · exact hk
      · exact key_lt_trans hk (hlt x hx)
    · split
      · rename_i hk
        obtain rfl := key_inj.1 hk
        exact List.pairwise_cons.2 ⟨hlt, hs⟩
      · rename_i hk hne
        refine List.pairwise_cons.2 ⟨fun x hx => ?_, ih hs⟩
        rcases mem_of_mem_insertIn hx with rfl | hx
        · exact key_lt_of_not_lt hk hne
        · exact hlt x hx

/-- The map with `v` under `k`. -/
def insert (m : SortedMap κ α) (k : κ) (v : α) : SortedMap κ α :=
  ⟨insertIn k v m.entries, ascending_insertIn m.ascending⟩

theorem lookupIn_insertIn (k k' : κ) (v : α) (l : List (κ × α)) :
    lookupIn k' (insertIn k v l) = if key k' = key k then some v else lookupIn k' l := by
  induction l with
  | nil => simp [insertIn, lookupIn]
  | cons e rest ih =>
    obtain ⟨k'', v''⟩ := e
    rw [insertIn]
    split
    · simp [lookupIn]
    · split
      · rename_i hk
        rw [lookupIn, lookupIn, ← hk]
        split <;> simp_all
      · rename_i hk
        rw [lookupIn, lookupIn, ih]
        by_cases h : key k' = key k''
        · have : key k' ≠ key k := fun h' => hk (h'.symm.trans h)
          rw [if_pos h, if_neg this, if_pos h]
        · rw [if_neg h, if_neg h]

theorem get?_insert (m : SortedMap κ α) (k k' : κ) (v : α) :
    (m.insert k v).get? k' = if key k' = key k then some v else m.get? k' :=
  lookupIn_insertIn k k' v m.entries

@[simp] theorem get?_insert_self (m : SortedMap κ α) (k : κ) (v : α) :
    (m.insert k v).get? k = some v := by
  rw [get?_insert, if_pos rfl]

theorem get?_insert_of_ne {m : SortedMap κ α} {k k' : κ} {v : α} (h : k' ≠ k) :
    (m.insert k v).get? k' = m.get? k' := by
  rw [get?_insert, if_neg (fun h' => h (key_inj.1 h'))]

theorem mem_keys_insert {m : SortedMap κ α} {k k' : κ} {v : α} :
    k' ∈ (m.insert k v).keys ↔ k' = k ∨ k' ∈ m.keys := by
  rw [mem_keys_iff, mem_keys_iff]
  by_cases h : k' = k
  · subst h
    simp
  · rw [get?_insert_of_ne h]
    simp [h]

/-- What holds of a new entry and of all old ones holds of all entries. -/
theorem forall_get?_insert {m : SortedMap κ α} {k : κ} {v : α} {P : κ → α → Prop} (hk : P k v)
    (h : ∀ k' v', m.get? k' = some v' → P k' v') :
    ∀ k' v', (m.insert k v).get? k' = some v' → P k' v' := by
  intro k' v' hv
  by_cases hk' : k' = k
  · subst hk'
    rw [get?_insert_self] at hv
    cases hv
    exact hk
  · rw [get?_insert_of_ne hk'] at hv
    exact h k' v' hv

/-- The map of a list of entries; of two with one key the last counts. -/
def ofList (l : List (κ × α)) : SortedMap κ α :=
  l.foldl (fun m e => m.insert e.1 e.2) empty

theorem get?_foldl_insert (l : List (κ × α)) (m : SortedMap κ α) (k : κ) :
    (l.foldl (fun m e => m.insert e.1 e.2) m).get? k = (lookupIn k l.reverse).or (m.get? k) := by
  induction l generalizing m with
  | nil => rfl
  | cons e rest ih =>
    obtain ⟨k', v⟩ := e
    rw [List.foldl_cons, ih, get?_insert, List.reverse_cons, lookupIn_append, Option.or_assoc]
    by_cases hk : key k = key k' <;> simp [lookupIn, hk]

/-- The map of a list answers with the last entry under a key. -/
theorem get?_ofList (l : List (κ × α)) (k : κ) : (ofList l).get? k = lookupIn k l.reverse := by
  rw [ofList, get?_foldl_insert, get?_empty, Option.or_none]

/-! ### A map is its answers -/

/-- Two maps that answer alike are the same map. -/
theorem ext_get? {m n : SortedMap κ α} (h : ∀ k, m.get? k = n.get? k) : m = n := by
  obtain ⟨l, hl⟩ := m
  obtain ⟨l', hl'⟩ := n
  apply ext
  change ∀ k, lookupIn k l = lookupIn k l' at h
  change l = l'
  induction l generalizing l' with
  | nil =>
    cases l' with
    | nil => rfl
    | cons e rest => simpa [lookupIn] using h e.1
  | cons e rest ih =>
    cases l' with
    | nil => simpa [lookupIn] using h e.1
    | cons e' rest' =>
      obtain ⟨k, v⟩ := e
      obtain ⟨k', v'⟩ := e'
      obtain ⟨hlt, hs⟩ := List.pairwise_cons.1 hl
      obtain ⟨hlt', hs'⟩ := List.pairwise_cons.1 hl'
      have hk : k = k' := by
        rcases List.mem_cons.1 (mem_of_lookupIn (by rw [← h k]; simp [lookupIn]) : (k, v) ∈ _) with
          he | he
        · exact (Prod.mk.inj he).1
        rcases List.mem_cons.1 (mem_of_lookupIn (by rw [h k']; simp [lookupIn]) : (k', v') ∈ _) with
          he' | he'
        · exact (Prod.mk.inj he').1.symm
        exact absurd (key_lt_trans (hlt _ he') (hlt' _ he)) not_key_lt_self
      subst hk
      have hv : v = v' := by simpa [lookupIn] using h k
      subst hv
      refine congrArg ((k, v) :: ·) (ih hs rest' hs' fun k'' => ?_)
      by_cases hk : key k'' = key k
      · obtain rfl := key_inj.1 hk
        rw [lookupIn_eq_none (fun e he h' => not_key_lt_self (a := k'') (by simpa [h'] using hlt e he)),
          lookupIn_eq_none (fun e he h' => not_key_lt_self (a := k'') (by simpa [h'] using hlt' e he))]
      · simpa [lookupIn, hk] using h k''

/-! ### Changing the values -/

/-- The map with `f` applied to each value. -/
def mapValues (m : SortedMap κ α) (f : α → β) : SortedMap κ β :=
  ⟨m.entries.map (fun e => (e.1, f e.2)), by
    rw [List.pairwise_map]
    exact m.ascending⟩

theorem get?_mapValues (m : SortedMap κ α) (f : α → β) (k : κ) :
    (m.mapValues f).get? k = (m.get? k).map f := by
  obtain ⟨l, hl⟩ := m
  change lookupIn k (l.map fun e => (e.1, f e.2)) = (lookupIn k l).map f
  clear hl
  induction l with
  | nil => rfl
  | cons e rest ih =>
    obtain ⟨k', v⟩ := e
    rw [List.map_cons, lookupIn, lookupIn, ih]
    split <;> rfl

end SortedMap

end PublicationIndicator
