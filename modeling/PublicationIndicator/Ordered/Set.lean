import PublicationIndicator.Ordered.Key

/-!
# PublicationIndicator.Ordered.Set — finite sets listed in order

A `SortedSet` is the strictly ascending list of its elements, so that two sets with the same elements
are equal and a set is written down in one way only.
-/

namespace PublicationIndicator

/-- A finite set, held as the strictly ascending list of its elements. -/
structure SortedSet (κ : Type) [Keyed κ] where
  /-- The elements in ascending order. -/
  toList : List κ
  /-- Each element comes before all that follow it. -/
  ascending : toList.Pairwise (fun a b => key a < key b)

namespace SortedSet

variable {κ : Type} [Keyed κ]

theorem ext {s t : SortedSet κ} (h : s.toList = t.toList) : s = t := by
  cases s; cases t; cases h; rfl

instance [DecidableEq κ] : DecidableEq (SortedSet κ) := fun s t =>
  if h : s.toList = t.toList then isTrue (ext h) else isFalse (fun e => h (e ▸ rfl))

instance : Membership κ (SortedSet κ) := ⟨fun s a => a ∈ s.toList⟩

theorem mem_def {a : κ} {s : SortedSet κ} : a ∈ s ↔ a ∈ s.toList := Iff.rfl

instance [DecidableEq κ] (a : κ) (s : SortedSet κ) : Decidable (a ∈ s) :=
  inferInstanceAs (Decidable (a ∈ s.toList))

/-- Nothing stands in the list of the elements twice. -/
theorem nodup_toList (s : SortedSet κ) : s.toList.Nodup := by
  refine s.ascending.imp ?_
  rintro a _ hlt rfl
  exact not_key_lt_self hlt

/-- Two sets with the same elements are equal. -/
theorem ext_mem {s t : SortedSet κ} (h : ∀ a, a ∈ s ↔ a ∈ t) : s = t := by
  apply ext
  refine List.Perm.eq_of_pairwise (fun a b _ _ hab hba => ?_) s.ascending t.ascending
    ((List.perm_ext_iff_of_nodup s.nodup_toList t.nodup_toList).2 h)
  exact absurd (key_lt_trans hab hba) not_key_lt_self

/-- The set without elements. -/
def empty : SortedSet κ := ⟨[], .nil⟩

/-- How many elements there are. -/
def size (s : SortedSet κ) : Nat := s.toList.length

/-! ### Insertion -/

/-- Puts `a` into an ascending list, unless it is there already. -/
def insertIn (a : κ) : List κ → List κ
  | [] => [a]
  | b :: rest =>
    if key a < key b then a :: b :: rest
    else if key a = key b then b :: rest
    else b :: insertIn a rest

theorem mem_insertIn {a x : κ} {l : List κ} : x ∈ insertIn a l ↔ x = a ∨ x ∈ l := by
  induction l with
  | nil => simp [insertIn]
  | cons b rest ih =>
    rw [insertIn]
    split
    · simp
    · split
      · rename_i h
        obtain rfl := key_inj.1 h
        simp
      · simp only [List.mem_cons, ih]
        exact or_left_comm

theorem ascending_insertIn {a : κ} {l : List κ} (h : l.Pairwise (fun a b => key a < key b)) :
    (insertIn a l).Pairwise (fun a b => key a < key b) := by
  induction l with
  | nil => simp [insertIn]
  | cons b rest ih =>
    rw [insertIn]
    split
    · rename_i hab
      refine List.pairwise_cons.2 ⟨?_, h⟩
      intro x hx
      rcases List.mem_cons.1 hx with rfl | hx
      · exact hab
      · exact key_lt_trans hab ((List.pairwise_cons.1 h).1 x hx)
    · split
      · exact h
      · rename_i hab hne
        refine List.pairwise_cons.2 ⟨?_, ih (List.pairwise_cons.1 h).2⟩
        intro x hx
        rcases mem_insertIn.1 hx with rfl | hx
        · exact key_lt_of_not_lt hab hne
        · exact (List.pairwise_cons.1 h).1 x hx

/-- The set with one more element. -/
def insert (s : SortedSet κ) (a : κ) : SortedSet κ :=
  ⟨insertIn a s.toList, ascending_insertIn s.ascending⟩

theorem mem_insert {s : SortedSet κ} {a x : κ} : x ∈ s.insert a ↔ x = a ∨ x ∈ s := mem_insertIn

/-- The set of the elements of a list. -/
def ofList (l : List κ) : SortedSet κ := l.foldl insert empty

theorem mem_foldl_insert {l : List κ} {s : SortedSet κ} {x : κ} :
    x ∈ l.foldl insert s ↔ x ∈ l ∨ x ∈ s := by
  induction l generalizing s with
  | nil => simp
  | cons a rest ih =>
    rw [List.foldl_cons, ih, mem_insert, List.mem_cons]
    constructor
    · rintro (h | h | h)
      · exact .inl (.inr h)
      · exact .inl (.inl h)
      · exact .inr h
    · rintro ((h | h) | h)
      · exact .inr (.inl h)
      · exact .inl h
      · exact .inr (.inr h)

theorem mem_ofList {l : List κ} {x : κ} : x ∈ ofList l ↔ x ∈ l := by
  rw [ofList, mem_foldl_insert]
  simp [mem_def, empty]

end SortedSet

end PublicationIndicator
