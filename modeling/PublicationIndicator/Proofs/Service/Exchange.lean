import PublicationIndicator.Service.Exchange
import PublicationIndicator.Service.Faulty

/-!
# PublicationIndicator.Proofs.Service.Exchange — what exchanges tell of a session and of a store

A list of exchanges is seen from two sides.  `Session.Path` says that a session goes through it to a
result, whatever answers the calls; `CandidateStore.Answers` says that a store gives the answers, where
it does not fail, and what it keeps afterwards.  A session that is run on a faulty store goes through its
exchanges, and the store answers them (`path_run`, `answers_run`).
-/

namespace PublicationIndicator

/-! ### Ways through a session -/

namespace Session

variable {α β σ : Type}

/-- The session can make these calls, get these answers and end with that result. -/
def Path : Session α → List Exchange → α → Prop
  | done a, t, r => t = [] ∧ r = a
  | load id next, t, r => ∃ answer rest, t = .load id answer :: rest ∧ (next answer).Path rest r
  | save c expected next, t, r =>
    ∃ answer rest, t = .save c expected answer :: rest ∧ (next answer).Path rest r
  | publish u next, t, r => ∃ answer rest, t = .publish u answer :: rest ∧ (next answer).Path rest r

theorem path_run (b : Backend σ) (s : Session α) (w : σ) :
    s.Path (s.exchanges b w) (s.run b w).1 := by
  induction s generalizing w with
  | done a => exact ⟨rfl, rfl⟩
  | load id next ih => exact ⟨_, _, rfl, ih _ _⟩
  | save c expected next ih => exact ⟨_, _, rfl, ih _ _⟩
  | publish u next ih => exact ⟨_, _, rfl, ih _ _⟩

/-- A way through two sessions in a row is a way through one and then through the other. -/
theorem exists_path_of_bind {s : Session α} {f : α → Session β} {t : List Exchange} {r : β}
    (h : (s >>= f).Path t r) :
    ∃ a t₁ t₂, t = t₁ ++ t₂ ∧ s.Path t₁ a ∧ (f a).Path t₂ r := by
  change (s.andThen f).Path t r at h
  induction s generalizing t with
  | done a => exact ⟨a, [], t, rfl, ⟨rfl, rfl⟩, h⟩
  | load id next ih =>
    obtain ⟨answer, rest, rfl, hrest⟩ := h
    obtain ⟨a, t₁, t₂, rfl, h₁, h₂⟩ := ih answer hrest
    exact ⟨a, _ :: t₁, t₂, rfl, ⟨answer, t₁, rfl, h₁⟩, h₂⟩
  | save c expected next ih =>
    obtain ⟨answer, rest, rfl, hrest⟩ := h
    obtain ⟨a, t₁, t₂, rfl, h₁, h₂⟩ := ih answer hrest
    exact ⟨a, _ :: t₁, t₂, rfl, ⟨answer, t₁, rfl, h₁⟩, h₂⟩
  | publish u next ih =>
    obtain ⟨answer, rest, rfl, hrest⟩ := h
    obtain ⟨a, t₁, t₂, rfl, h₁, h₂⟩ := ih answer hrest
    exact ⟨a, _ :: t₁, t₂, rfl, ⟨answer, t₁, rfl, h₁⟩, h₂⟩

end Session

/-! ### Exchanges that leave no trace -/

/-- Nothing is written and nothing is offered. -/
def Exchange.Quiet (t : List Exchange) : Prop :=
  ∀ x ∈ t, x.written? = none ∧ x.offered? = none

namespace Exchange

variable {x : Exchange} {t u : List Exchange}

theorem quiet_nil : Quiet [] := by
  intro x hx
  cases hx

theorem quiet_cons (hw : x.written? = none) (ho : x.offered? = none) (ht : Quiet t) :
    Quiet (x :: t) := by
  intro y hy
  rcases List.mem_cons.1 hy with rfl | hy
  · exact ⟨hw, ho⟩
  · exact ht y hy

theorem Quiet.filterMap_written? (h : Quiet t) : t.filterMap written? = [] :=
  List.filterMap_eq_nil_iff.2 fun x hx => (h x hx).1

theorem Quiet.filterMap_offered? (h : Quiet t) : t.filterMap offered? = [] :=
  List.filterMap_eq_nil_iff.2 fun x hx => (h x hx).2

end Exchange

/-! ### A store that answers or fails -/

namespace CandidateStore

/-- The store answers the calls, where it does not fail, and is the second one afterwards. -/
inductive Answers : CandidateStore → List Exchange → CandidateStore → Prop where
  | nil {s} : Answers s [] s
  | load {s s' id t} (h : Answers s t s') : Answers s (.load id (.ok (s.load id)) :: t) s'
  | loadFailed {s s' id e t} (h : Answers s t s') : Answers s (.load id (.error e) :: t) s'
  | save {s s₁ s' c expected version t} (hs : s.save c expected = .ok (version, s₁))
      (h : Answers s₁ t s') : Answers s (.save c expected (.ok version) :: t) s'
  | saveFailed {s s' c expected e t} (h : Answers s t s') :
      Answers s (.save c expected (.error e) :: t) s'
  | publish {s s' u answer t} (h : Answers s t s') : Answers s (.publish u answer :: t) s'

variable {s s' : CandidateStore} {t u : List Exchange}

/-- Exchanges that leave no trace change nothing. -/
theorem Answers.of_quiet (ht : Exchange.Quiet t) (h : s.Answers (t ++ u) s') : s.Answers u s' := by
  induction t with
  | nil => exact h
  | cons x rest ih =>
    have hx := ht x List.mem_cons_self
    have hrest : Exchange.Quiet rest := fun y hy => ht y (List.mem_cons_of_mem _ hy)
    cases h with
    | load h => exact ih hrest h
    | loadFailed h => exact ih hrest h
    | save hs h => cases hx.1
    | saveFailed h => exact ih hrest h
    | publish h => cases hx.2

theorem Answers.eq_of_quiet (ht : Exchange.Quiet t) (h : s.Answers t s') : s' = s := by
  rw [← List.append_nil t] at h
  cases h.of_quiet ht
  rfl

end CandidateStore

namespace FaultyStore

variable (w : FaultyStore)

theorem load_cases (id : CandidateId) : ∃ w', w'.store = w.store ∧
    (load id w = (.ok (w.store.load id), w') ∨ ∃ e, load id w = (.error e, w')) := by
  refine ⟨{ w with loads := w.loads.tail }, rfl, ?_⟩
  cases hfault : w.loads.head?.join with
  | none => exact .inl (by simp [load, hfault])
  | some e => exact .inr ⟨e, by simp [load, hfault]⟩

theorem save_cases (c : Candidate) (expected : Option Nat) :
    (∃ w' version, w.store.save c expected = .ok (version, w'.store) ∧
      save c expected w = (.ok version, w')) ∨
    ∃ w' e, w'.store = w.store ∧ save c expected w = (.error e, w') := by
  cases hfault : w.saves.head?.join with
  | some e => exact .inr ⟨{ w with saves := w.saves.tail }, e, rfl, by simp [save, hfault]⟩
  | none =>
    cases hsave : w.store.save c expected with
    | error e =>
      exact .inr ⟨{ w with saves := w.saves.tail }, e, rfl, by simp [save, hfault, hsave]⟩
    | ok result =>
      obtain ⟨version, store⟩ := result
      exact .inl ⟨{ w with saves := w.saves.tail, store := store }, version, rfl,
        by simp [save, hfault, hsave]⟩

theorem store_publish (u : StoredCandidate) : (publish u w).2.store = w.store := by
  unfold publish
  cases w.publishes.head?.join <;> rfl

/-- Whatever goes wrong, the store answers the calls or fails them. -/
theorem answers_run {α : Type} (s : Session α) :
    w.store.Answers (s.exchanges backend w) (s.run backend w).2.store := by
  induction s generalizing w with
  | done a => exact .nil
  | load id next ih =>
    change w.store.Answers (.load id (load id w).1 :: (next (load id w).1).exchanges backend (load id w).2)
      ((next (load id w).1).run backend (load id w).2).2.store
    obtain ⟨w', hstore, hload | ⟨e, hload⟩⟩ := w.load_cases id
    · have hrest := ih (.ok (w.store.load id)) w'
      rw [hstore] at hrest
      rw [hload]
      exact .load hrest
    · have hrest := ih (.error e) w'
      rw [hstore] at hrest
      rw [hload]
      exact .loadFailed hrest
  | save c expected next ih =>
    change w.store.Answers (.save c expected (save c expected w).1 ::
        (next (save c expected w).1).exchanges backend (save c expected w).2)
      ((next (save c expected w).1).run backend (save c expected w).2).2.store
    rcases w.save_cases c expected with ⟨w', version, hstore, hsave⟩ | ⟨w', e, hstore, hsave⟩
    · rw [hsave]
      exact .save hstore (ih (.ok version) w')
    · have hrest := ih (.error e) w'
      rw [hstore] at hrest
      rw [hsave]
      exact .saveFailed hrest
  | publish u next ih =>
    have hrest := ih (publish u w).1 (publish u w).2
    rw [store_publish] at hrest
    exact .publish hrest

end FaultyStore

end PublicationIndicator
