import PublicationIndicator.Service.Interleaving

/-!
# PublicationIndicator.Proofs.Service.Contention — clients that want the same write

All clients of a store mean to replace `current` by `final`.  The first one writes; the others meet a
conflict or load again, and find the work done.  `Session.Contends` and `Session.Settles` say of one
session how it goes on before and after that write, with a bound on the calls that are left to it.  From
them follow what a move does to all clients together (`settled_step`, `open_step`) and what any moves do
(`settled_run`, `open_run`).
-/

namespace PublicationIndicator

/-! ### One session -/

namespace Session

variable {α : Type}

/-- Where the store keeps `final` for good, no write of the session is carried out, and it ends with `a`
after at most that many calls. -/
def Settles (final : StoredCandidate) (a : α) : Session α → Nat → Prop
  | done b, _ => b = a
  | load id next, n =>
    0 < n ∧ id = final.candidate.id ∧ (next (.ok (some final))).Settles final a (n - 1)
  | save c expected next, n =>
    0 < n ∧ c.id = final.candidate.id ∧ expected ≠ some final.version ∧
      ∀ id expected actual,
        (next (.error (.concurrentModification id expected actual))).Settles final a (n - 1)
  | publish _ next, n => 0 < n ∧ (next (.ok ())).Settles final a (n - 1)

/-- Where the store keeps `current`, the session goes on to replace it by `final`: after at most that
many calls it ends with `won` if it writes first, and with `lost` if somebody else does. -/
def Contends (current : Option StoredCandidate) (final : StoredCandidate) (won lost : α) :
    Session α → Nat → Prop
  | load id next, n =>
    (load id next).Settles final lost n ∧ (next (.ok current)).Contends current final won lost (n - 1)
  | save c expected next, n =>
    (save c expected next).Settles final lost n ∧ c = final.candidate ∧
      expected = current.map StoredCandidate.version ∧
      (next (.ok final.version)).Settles final won (n - 1)
  | done _, _ | publish _ _, _ => False

variable {current : Option StoredCandidate} {final : StoredCandidate} {a won lost : α} {s : Session α}
  {n : Nat}

theorem Settles.eq_done (h : s.Settles final a 0) : s = .done a := by
  cases s with
  | done b =>
    have hb : b = a := h
    rw [hb]
  | load id next => exact absurd h.1 (Nat.lt_irrefl 0)
  | save c expected next => exact absurd h.1 (Nat.lt_irrefl 0)
  | publish u next => exact absurd h.1 (Nat.lt_irrefl 0)

theorem not_contends_done : ¬ (done a).Contends current final won lost n := id

/-- Who has not written is ready for somebody else's write. -/
theorem Contends.settles (h : s.Contends current final won lost n) : s.Settles final lost n := by
  cases s with
  | done b => exact h.elim
  | publish u next => exact h.elim
  | load id next => exact h.1
  | save c expected next => exact h.1

end Session

/-! ### The store -/

namespace CandidateStore

variable {s s' : CandidateStore} {c : Candidate} {expected : Option Nat} {version : Nat}

/-- A load tells at which version the candidate is kept. -/
theorem version?_eq_map_load (s : CandidateStore) (id : CandidateId) :
    s.version? id = (s.load id).map StoredCandidate.version := by
  rw [version?, load, Option.map_map]
  rfl

/-- What was written is loaded again, normalized. -/
theorem load_of_save (h : s.save c expected = .ok (version, s')) :
    s'.load c.id = some ⟨c.normalized, version⟩ := by
  obtain ⟨-, -, rfl⟩ := save_eq_ok_iff.1 h
  simp [load]

end CandidateStore

/-! ### All clients together -/

namespace Service.System

variable {ι : Type} {s : System ι} {calls : ι → Call} {i : ι} {P Q : ι → Session Answer → Prop}
  {left : ι → Nat} {current : Option StoredCandidate} {final : StoredCandidate}
  {answer : Bool → Answer} {writer : Option ι}

/-- Each client is at its call, and what is left of it is as `P` says. -/
def Clients (s : System ι) (calls : ι → Call) (P : ι → Session Answer → Prop) : Prop :=
  ∀ i, ∃ rest, s.running i = some ⟨calls i, rest⟩ ∧ P i rest

/-- Nobody has written yet, and every client is about to replace `current` by `final`. -/
structure Open (s : System ι) (calls : ι → Call) (current : Option StoredCandidate)
    (final : StoredCandidate) (answer : Bool → Answer) (left : ι → Nat) : Prop where
  kept : s.store.load final.candidate.id = current
  writes : s.writes = []
  clients : s.Clients calls fun i rest =>
    rest.Contends current final (answer true) (answer false) (left i)

/-- As long as nobody has written, nobody is done. -/
theorem Open.not_done {call : Call} {a : Answer} (h : s.Open calls current final answer left) :
    s.running i ≠ some ⟨call, .done a⟩ := by
  intro hi
  obtain ⟨rest, hrun, hrest⟩ := h.clients i
  rw [hi] at hrun
  cases hrun
  exact Session.not_contends_done hrest

theorem Open.left_ne_zero (h : s.Open calls current final answer left) : left i ≠ 0 := by
  intro hi
  obtain ⟨rest, hrun, hrest⟩ := h.clients i
  rw [hi] at hrest
  have hdone := hrest.settles.eq_done
  rw [hdone] at hrest
  exact Session.not_contends_done hrest

variable [DecidableEq ι]

/-- The store keeps `final`, written by the writer if there is one, and nobody will write any more. -/
structure Settled (s : System ι) (calls : ι → Call) (final : StoredCandidate)
    (answer : Bool → Answer) (writer : Option ι) (left : ι → Nat) : Prop where
  kept : s.store.load final.candidate.id = some final
  writes : s.writes = writer.toList.map fun i => ⟨i, calls i, final⟩
  clients : s.Clients calls fun i rest => rest.Settles final (answer (writer = some i)) (left i)

/-- The client has one call less left. -/
def spend (left : ι → Nat) (i : ι) : ι → Nat := fun j => if j = i then left j - 1 else left j

theorem spend_self : spend left i i = left i - 1 := if_pos rfl

theorem spend_of_ne {j : ι} (h : j ≠ i) : spend left i j = left j := if_neg h

theorem foldl_spend (order : List ι) (i : ι) : order.foldl spend left i = left i - order.count i := by
  induction order generalizing left with
  | nil => rfl
  | cons k rest ih =>
    rw [List.foldl_cons, ih]
    by_cases hk : i = k
    · subst hk
      rw [spend_self, List.count_cons_self]
      omega
    · rw [spend_of_ne hk, List.count_cons_of_ne (Ne.symm hk)]

/-- One client goes on; what holds of another one before may be read otherwise afterwards. -/
theorem Clients.goOn {rest : Session Answer} (h : s.Clients calls P) (hi : Q i rest)
    (hj : ∀ j ≠ i, ∀ rest, P j rest → Q j rest) : (s.goOn i ⟨calls i, rest⟩).Clients calls Q := by
  intro j
  by_cases hji : j = i
  · subst hji
    exact ⟨rest, by simp [System.goOn], hi⟩
  · obtain ⟨rest', hrun, hP⟩ := h j
    exact ⟨rest', by simp [System.goOn, hji, hrun], hj j hji rest' hP⟩

theorem goOn_self {r : Running} (h : s.running i = some r) : s.goOn i r = s := by
  have hrunning : (fun j => if j = i then some r else s.running j) = s.running := by
    funext j
    by_cases hj : j = i
    · rw [if_pos hj, hj, h]
    · rw [if_neg hj]
  rw [goOn, hrunning]

/-- A client without calls left has its answer. -/
theorem Settled.running_eq (h : s.Settled calls final answer writer left) (hi : left i = 0) :
    s.running i = some ⟨calls i, .done (answer (writer = some i))⟩ := by
  obtain ⟨rest, hrun, hrest⟩ := h.clients i
  rw [hi] at hrest
  rw [hrun, hrest.eq_done]

theorem Settled.answer_eq {call : Call} {a : Answer} (h : s.Settled calls final answer writer left)
    (hi : s.running i = some ⟨call, .done a⟩) : a = answer (writer = some i) := by
  obtain ⟨rest, hrun, hrest⟩ := h.clients i
  rw [hi] at hrun
  cases hrun
  exact hrest

theorem step_proceed {r : Running} {outlet : Except PublishError Unit} (h : s.running i = some r) :
    s.step (.proceed i outlet) = s.proceed i r outlet := by
  rw [step, h]

/-! ### Moves -/

/-- Once `final` is kept, a move changes nothing but that its client has one call less left. -/
theorem settled_step (h : s.Settled calls final answer writer left) (i : ι) :
    (s.step (.proceed i (.ok ()))).Settled calls final answer writer (spend left i) := by
  obtain ⟨rest, hrun, hrest⟩ := h.clients i
  have hgoOn : ∀ rest', rest'.Settles final (answer (writer = some i)) (left i - 1) →
      (s.goOn i ⟨calls i, rest'⟩).Settled calls final answer writer (spend left i) := by
    intro rest' hrest'
    refine ⟨h.kept, h.writes, h.clients.goOn ?_ fun j hj rest'' h'' => ?_⟩
    · rw [spend_self]
      exact hrest'
    · rw [spend_of_ne hj]
      exact h''
  rw [step_proceed hrun]
  cases rest with
  | done b =>
    -- a client that is done stays done, however few calls are left to it
    have hself := hgoOn (.done b) hrest
    rw [goOn_self hrun] at hself
    exact hself
  | load id next =>
    obtain ⟨-, rfl, hnext⟩ := hrest
    rw [← h.kept] at hnext
    exact hgoOn _ hnext
  | save c expected next =>
    obtain ⟨-, hid, hexpected, hnext⟩ := hrest
    -- it was made from what was kept before, so it meets a conflict
    have hversion : s.store.version? c.id = some final.version := by
      rw [hid, CandidateStore.version?_eq_map_load, h.kept]
      rfl
    have hsave : s.store.save c expected =
        .error (.concurrentModification c.id expected (some final.version)) := by
      rw [CandidateStore.save, hversion, if_neg (Ne.symm hexpected)]
    simp only [proceed, hsave]
    exact hgoOn _ (hnext _ _ _)
  | publish u next => exact hgoOn _ hrest.2

/-- As long as nobody has written, a move is the write, or it brings its client nearer to it. -/
theorem open_step (h : s.Open calls current final answer left)
    (hversion : final.version = (current.map StoredCandidate.version).elim 1 (· + 1))
    (hnormal : final.candidate.normalized = final.candidate) (i : ι) :
    (s.step (.proceed i (.ok ()))).Open calls current final answer (spend left i) ∨
      (s.step (.proceed i (.ok ()))).Settled calls final answer (some i) (spend left i) := by
  obtain ⟨rest, hrun, hrest⟩ := h.clients i
  rw [step_proceed hrun]
  cases rest with
  | done b => exact hrest.elim
  | publish u next => exact hrest.elim
  | load id next =>
    left
    obtain ⟨⟨-, rfl, -⟩, hnext⟩ := hrest
    simp only [proceed, h.kept]
    refine ⟨h.kept, h.writes, h.clients.goOn ?_ fun j hj rest' h' => ?_⟩
    · rw [spend_self]
      exact hnext
    · rw [spend_of_ne hj]
      exact h'
  | save c expected next =>
    right
    obtain ⟨-, rfl, rfl, hnext⟩ := hrest
    have hkept : s.store.version? final.candidate.id = current.map StoredCandidate.version := by
      rw [CandidateStore.version?_eq_map_load, h.kept]
    have hsave := CandidateStore.save_eq_ok_iff.2 ⟨hkept, hversion, rfl⟩
    simp only [proceed, hsave]
    refine ⟨?_, by simp [h.writes], ?_⟩
    · rw [CandidateStore.load_of_save hsave, hnormal]
    · change (s.goOn i ⟨calls i, next (.ok final.version)⟩).Clients calls _
      refine h.clients.goOn ?_ fun j hj rest' h' => ?_
      · simpa [spend_self] using hnext
      -- the others lose, and their conflict is one that they are ready for
      · simpa [spend_of_ne hj, Ne.symm hj] using h'.settles

theorem settled_run (h : s.Settled calls final answer writer left) (order : List ι) :
    (s.run (order.map (.proceed · (.ok ())))).Settled calls final answer writer
      (order.foldl spend left) := by
  induction order generalizing s left with
  | nil => exact h
  | cons i rest ih => exact ih (settled_step h i)

theorem open_run (h : s.Open calls current final answer left)
    (hversion : final.version = (current.map StoredCandidate.version).elim 1 (· + 1))
    (hnormal : final.candidate.normalized = final.candidate) (order : List ι) :
    (s.run (order.map (.proceed · (.ok ())))).Open calls current final answer
        (order.foldl spend left) ∨
      ∃ i, (s.run (order.map (.proceed · (.ok ())))).Settled calls final answer (some i)
        (order.foldl spend left) := by
  induction order generalizing s left with
  | nil => exact .inl h
  | cons i rest ih =>
    rcases open_step h hversion hnormal i with hopen | hsettled
    · exact ih hopen
    · exact .inr ⟨i, settled_run hsettled rest⟩

end Service.System

end PublicationIndicator
