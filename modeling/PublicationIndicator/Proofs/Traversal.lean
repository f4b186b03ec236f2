import Mathlib.Data.List.Forall2
import Mathlib.Data.List.Perm.Basic

/-!
# PublicationIndicator.Proofs.Traversal — lists of steps that may fail

What it means that a step is followed by another one, or carried out for each element of a list, without
a failure, and where a failure comes from.
-/

namespace PublicationIndicator

variable {ε α β : Type}

theorem bind_eq_ok_iff {x : Except ε α} {f : α → Except ε β} {b : β} :
    (x >>= f) = .ok b ↔ ∃ a, x = .ok a ∧ f a = .ok b := by
  cases x with
  | error e => simp [bind, Except.bind]
  | ok a => simp [bind, Except.bind]

theorem bind_eq_error_iff {x : Except ε α} {f : α → Except ε β} {e : ε} :
    (x >>= f) = .error e ↔ x = .error e ∨ ∃ a, x = .ok a ∧ f a = .error e := by
  cases x with
  | error e' => simp [bind, Except.bind]
  | ok a => simp [bind, Except.bind]

theorem toOption_eq_some_iff {x : Except ε α} {a : α} : x.toOption = some a ↔ x = .ok a := by
  cases x with
  | error e => exact ⟨nofun, nofun⟩
  | ok b =>
    constructor
    · intro h
      cases h
      rfl
    · intro h
      cases h
      rfl

/-- A traversal succeeds if each step does. -/
theorem mapM_eq_ok_iff {f : α → Except ε β} {l : List α} {l' : List β} :
    l.mapM f = .ok l' ↔ List.Forall₂ (fun a b => f a = .ok b) l l' := by
  induction l generalizing l' with
  | nil => simp [pure, Except.pure, eq_comm]
  | cons a l ih =>
    rw [List.mapM_cons, bind_eq_ok_iff]
    constructor
    · rintro ⟨b, hb, h⟩
      obtain ⟨bs, hbs, h⟩ := bind_eq_ok_iff.1 h
      cases h
      exact .cons hb (ih.1 hbs)
    · rintro (_ | ⟨hb, hbs⟩)
      exact ⟨_, hb, bind_eq_ok_iff.2 ⟨_, ih.2 hbs, rfl⟩⟩

/-- A traversal whose steps all succeed gives a result for each. -/
theorem exists_mapM_eq_ok {f : α → Except ε β} {P : α → β → Prop} {l : List α}
    (h : ∀ a ∈ l, ∃ b, f a = .ok b ∧ P a b) : ∃ l', l.mapM f = .ok l' ∧ List.Forall₂ P l l' := by
  induction l with
  | nil => exact ⟨[], rfl, .nil⟩
  | cons a l ih =>
    obtain ⟨⟨b, hb, hP⟩, hl⟩ := List.forall_mem_cons.1 h
    obtain ⟨bs, hbs, hPs⟩ := ih hl
    exact ⟨b :: bs, by rw [List.mapM_cons, hb, hbs]; rfl, .cons hP hPs⟩

/-- A traversal of which each step succeeds. -/
theorem exists_mapM_ok {f : α → Except ε β} {l : List α} (h : ∀ a ∈ l, ∃ b, f a = .ok b) :
    ∃ l', l.mapM f = .ok l' := by
  have hstep : ∀ a ∈ l, ∃ b, f a = .ok b ∧ True := fun a ha => (h a ha).imp fun _ hb => ⟨hb, trivial⟩
  obtain ⟨l', hl', -⟩ := exists_mapM_eq_ok hstep
  exact ⟨l', hl'⟩

theorem exists_of_mem_forall₂ {P : α → β → Prop} {l : List α} {l' : List β}
    (h : List.Forall₂ P l l') {b : β} (hb : b ∈ l') : ∃ a ∈ l, P a b := by
  induction h with
  | nil => cases hb
  | cons ha _ ih =>
    rcases List.mem_cons.1 hb with rfl | hb
    · exact ⟨_, by simp, ha⟩
    · obtain ⟨a, ha', hab⟩ := ih hb
      exact ⟨a, List.mem_cons_of_mem _ ha', hab⟩

/-- Each result of a traversal is that of a step. -/
theorem exists_of_mem_mapM {f : α → Except ε β} {l : List α} {l' : List β} (h : l.mapM f = .ok l')
    {b : β} (hb : b ∈ l') : ∃ a ∈ l, f a = .ok b :=
  exists_of_mem_forall₂ (mapM_eq_ok_iff.1 h) hb

theorem exists_mem_of_mapM {f : α → Except ε β} {l : List α} {l' : List β} (h : l.mapM f = .ok l')
    {a : α} (ha : a ∈ l) : ∃ b ∈ l', f a = .ok b := by
  have hflip : List.Forall₂ (fun b a => f a = .ok b) l' l := (mapM_eq_ok_iff.1 h).flip
  exact exists_of_mem_forall₂ hflip ha

/-- Two traversals of one list give results that are related step by step. -/
theorem forall₂_of_mapM {γ : Type} {f : α → Except ε β} {g : α → Except ε γ} {P : β → γ → Prop}
    {l : List α} {r : List β} {r' : List γ} (hr : l.mapM f = .ok r) (hr' : l.mapM g = .ok r')
    (h : ∀ a ∈ l, ∀ b c, f a = .ok b → g a = .ok c → P b c) : List.Forall₂ P r r' := by
  have hall := mapM_eq_ok_iff.1 hr
  have hall' := mapM_eq_ok_iff.1 hr'
  clear hr hr'
  induction hall generalizing r' with
  | nil =>
    cases hall'
    exact .nil
  | cons ha _ ih =>
    obtain ⟨hstep, hl⟩ := List.forall_mem_cons.1 h
    cases hall' with
    | cons ha' hall' => exact .cons (hstep _ _ ha ha') (ih hl hall')

/-- A traversal in another order gives the same results in another order. -/
theorem exists_mapM_of_perm {f : α → Except ε β} {l l' : List α} {r : List β} (hp : l.Perm l')
    (h : l.mapM f = .ok r) : ∃ r', l'.mapM f = .ok r' ∧ r.Perm r' := by
  obtain ⟨r', hr', hperm⟩ := List.perm_comp_forall₂ hp.symm (mapM_eq_ok_iff.1 h)
  exact ⟨r', mapM_eq_ok_iff.2 hr', hperm.symm⟩

/-- A traversal of lists one after the other is one of all their elements. -/
theorem mapM_flatMap {γ : Type} {k : α → List β} {f : β → Except ε γ} (l : List α) :
    (l.flatMap k).mapM f = (l.mapM fun a => (k a).mapM f).map List.flatten := by
  induction l with
  | nil => rfl
  | cons a l ih =>
    rw [List.flatMap_cons, List.mapM_append, ih, List.mapM_cons]
    cases (k a).mapM f with
    | error e => rfl
    | ok b => cases l.mapM (fun a => (k a).mapM f) <;> rfl

theorem mapM_congr {f g : α → Except ε β} {l : List α} (h : ∀ a ∈ l, f a = g a) :
    l.mapM f = l.mapM g := by
  induction l with
  | nil => rfl
  | cons a l ih =>
    obtain ⟨ha, hl⟩ := List.forall_mem_cons.1 h
    rw [List.mapM_cons, List.mapM_cons, ha, ih hl]

end PublicationIndicator
