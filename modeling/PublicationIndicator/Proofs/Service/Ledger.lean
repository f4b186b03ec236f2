import Mathlib.Data.List.Induction
import PublicationIndicator.Proofs.Service.Retry
import PublicationIndicator.Service.Exchange

/-!
# PublicationIndicator.Proofs.Service.Ledger — what a store answers after any calls

A `Ledger` is a store in memory together with the calls that were made on it, from the first one on, and
their answers.  The answers alone tell what the store keeps (`Ledger.Faithful`): under each name the
candidate of the last save that was accepted, with as many for its version as saves were accepted.  One
call keeps this (`Ledger.Faithful.call`), so it holds after any calls, and it says how the next one is
answered (`Ledger.versioned_run`).
-/

namespace PublicationIndicator

/-- A call on a store. -/
inductive StoreCall where
  | load (id : CandidateId)
  | save (candidate : Candidate) (expected : Option Nat)

/-- A store, and the calls that were made on it with their answers. -/
structure Ledger where
  store : CandidateStore
  exchanges : List Exchange

/-! ### Saves that are accepted and refused -/

namespace CandidateStore

variable {s s' : CandidateStore} {c : Candidate} {expected : Option Nat} {version : Nat} {e : StoreError}

theorem backend_save_eq_ok_iff :
    backend.save c expected s = (.ok version, s') ↔ s.save c expected = .ok (version, s') := by
  unfold backend
  cases h : s.save c expected with
  | error e => simp [h]
  | ok result => simp [h, Prod.ext_iff]

theorem backend_save_eq_error_iff :
    backend.save c expected s = (.error e, s') ↔ s.save c expected = .error e ∧ s' = s := by
  unfold backend
  cases h : s.save c expected with
  | error e' => simp [h, eq_comm]
  | ok result => simp [h]

end CandidateStore

namespace Ledger

open CandidateStore

/-- An empty store, and no call was made on it. -/
def empty : Ledger := ⟨.empty, []⟩

/-- One more call is made. -/
def call (l : Ledger) : StoreCall → Ledger
  | .load id =>
    let (answer, store) := backend.load id l.store
    ⟨store, l.exchanges ++ [.load id answer]⟩
  | .save c expected =>
    let (answer, store) := backend.save c expected l.store
    ⟨store, l.exchanges ++ [.save c expected answer]⟩

/-- The calls are made one after the other, on an empty store at first. -/
def run (calls : List StoreCall) : Ledger := calls.foldl call empty

/-- The saves of a candidate that were accepted, each with the version that was answered. -/
def accepted (l : Ledger) (id : CandidateId) : List StoredCandidate :=
  (l.exchanges.filterMap Exchange.written?).filter fun w => w.candidate.id = id

/-- The version that was answered last; none if no save was accepted. -/
def current (l : Ledger) (id : CandidateId) : Option Nat :=
  (l.accepted id).getLast?.map StoredCandidate.version

/-- The store keeps what was accepted last, and versions count what was accepted. -/
structure Faithful (l : Ledger) : Prop where
  kept : ∀ id, l.store.records.get? id = (l.accepted id).getLast?
  numbered : ∀ id, (l.accepted id).map StoredCandidate.version = List.range' 1 (l.accepted id).length

variable {l : Ledger} {c : Candidate} {expected : Option Nat}

theorem faithful_empty : empty.Faithful where
  kept _ := rfl
  numbered _ := rfl

theorem Faithful.version?_eq (h : l.Faithful) (id : CandidateId) :
    l.store.version? id = l.current id := by
  rw [version?, h.kept]
  rfl

/-- The version after the last one is one more than the number of versions. -/
theorem Faithful.next_eq (h : l.Faithful) (id : CandidateId) :
    (l.current id).elim 1 (· + 1) = (l.accepted id).length + 1 := by
  have hlast : l.current id = (List.range' 1 (l.accepted id).length).getLast? := by
    rw [← h.numbered, List.getLast?_map]
    rfl
  rw [hlast, List.getLast?_range']
  by_cases hnone : (l.accepted id).length = 0 <;> simp [hnone]

/-! ### One more call -/

theorem accepted_concat (store : CandidateStore) (xs : List Exchange) (x : Exchange)
    (id : CandidateId) : (Ledger.mk store (xs ++ [x])).accepted id =
      (Ledger.mk store xs).accepted id ++ x.written?.toList.filter fun w => w.candidate.id = id := by
  unfold accepted
  rw [List.filterMap_append, List.filter_append]
  cases hx : x.written? <;> simp [hx]

/-- An exchange in which nothing is written leaves the store as it is. -/
theorem Faithful.of_unwritten (h : l.Faithful) {x : Exchange} (hx : x.written? = none) :
    (Ledger.mk l.store (l.exchanges ++ [x])).Faithful := by
  have hsame : ∀ id, (Ledger.mk l.store (l.exchanges ++ [x])).accepted id = l.accepted id := by
    intro id
    rw [accepted_concat, hx]
    simp
  constructor
  · intro id
    rw [hsame]
    exact h.kept id
  · intro id
    rw [hsame]
    exact h.numbered id

/-- A save that is accepted adds the next version of its candidate. -/
theorem Faithful.of_save (h : l.Faithful) {version : Nat} {store : CandidateStore}
    (hsave : l.store.save c expected = .ok (version, store)) :
    (Ledger.mk store (l.exchanges ++ [.save c expected (.ok version)])).Faithful := by
  obtain ⟨hcurrent, hversion, rfl⟩ := save_eq_ok_iff.1 hsave
  rw [← hcurrent, h.version?_eq, h.next_eq] at hversion
  have hadded : ∀ id, (Ledger.mk ⟨l.store.records.insert c.id ⟨c, version⟩⟩
      (l.exchanges ++ [.save c expected (.ok version)])).accepted id =
        l.accepted id ++ if c.id = id then [⟨c, version⟩] else [] := by
    intro id
    rw [accepted_concat]
    by_cases hid : c.id = id <;> simp [Exchange.written?, hid, accepted]
  constructor
  · intro id
    rw [hadded]
    by_cases hid : c.id = id
    · subst hid
      simp
    · rw [if_neg hid, List.append_nil, ← h.kept]
      exact SortedMap.get?_insert_of_ne (Ne.symm hid)
  · intro id
    rw [hadded]
    by_cases hid : c.id = id
    · subst hid
      rw [if_pos rfl, List.map_append, h.numbered, List.length_append, List.length_singleton,
        List.range'_concat, hversion]
      simp [Nat.add_comm]
    · rw [if_neg hid, List.append_nil]
      exact h.numbered id

theorem call_save (l : Ledger) (c : Candidate) (expected : Option Nat) :
    l.call (.save c expected) = ⟨(backend.save c expected l.store).2,
      l.exchanges ++ [.save c expected (backend.save c expected l.store).1]⟩ := rfl

/-- A call leaves the store as its answers tell. -/
theorem Faithful.call (h : l.Faithful) (a : StoreCall) : (l.call a).Faithful := by
  cases a with
  | load id => exact h.of_unwritten rfl
  | save c expected =>
    rw [call_save]
    cases hsave : l.store.save c expected with
    | error e =>
      rw [backend_save_eq_error_iff.2 ⟨hsave, rfl⟩]
      exact h.of_unwritten rfl
    | ok result =>
      obtain ⟨version, store⟩ := result
      rw [backend_save_eq_ok_iff.2 hsave]
      exact h.of_save hsave

theorem faithful_run (calls : List StoreCall) : (run calls).Faithful := by
  induction calls using List.reverseRecOn with
  | nil => exact faithful_empty
  | append_singleton calls a ih =>
    rw [run, List.foldl_append]
    exact ih.call a

/-- **After any calls** on a store that was empty at first, the accepted saves of a candidate have the
versions 1, 2, 3 and so on.  A save is accepted if and only if it expects the version that was answered
last, or none if no save of its candidate was accepted; it gets the next version and changes nothing else.
It is refused with the version that it expects and the one that is there, and then changes nothing at all.
A load changes nothing either, and answers with what was accepted last, normalized. -/
theorem versioned_run (calls : List StoreCall) :
    let l := run calls
    (∀ id, (l.accepted id).map StoredCandidate.version = List.range' 1 (l.accepted id).length) ∧
    (∀ c expected, (∃ version store, backend.save c expected l.store = (.ok version, store)) ↔
      expected = l.current c.id) ∧
    (∀ c expected version store, backend.save c expected l.store = (.ok version, store) →
      version = (l.current c.id).elim 1 (· + 1) ∧ version = (l.accepted c.id).length + 1 ∧
      store.records.get? c.id = some ⟨c, version⟩ ∧
      ∀ id, id ≠ c.id → store.records.get? id = l.store.records.get? id) ∧
    (∀ c expected e store, backend.save c expected l.store = (.error e, store) →
      e = .concurrentModification c.id expected (l.current c.id) ∧ store = l.store) ∧
    ∀ id, backend.load id l.store = (.ok ((l.accepted id).getLast?.map fun w =>
      { w with candidate := w.candidate.normalized }), l.store) := by
  intro l
  have h : l.Faithful := faithful_run calls
  refine ⟨h.numbered, fun c expected => ?_, fun c expected version store hsave => ?_,
    fun c expected e store hsave => ?_, fun id => ?_⟩
  · simp only [backend_save_eq_ok_iff, save_eq_ok_iff, h.version?_eq]
    constructor
    · rintro ⟨version, store, hcurrent, -, -⟩
      exact hcurrent.symm
    · rintro rfl
      exact ⟨_, _, rfl, rfl, rfl⟩
  · obtain ⟨hcurrent, hversion, rfl⟩ := save_eq_ok_iff.1 (backend_save_eq_ok_iff.1 hsave)
    rw [← hcurrent, h.version?_eq] at hversion
    exact ⟨hversion, hversion.trans (h.next_eq c.id), SortedMap.get?_insert_self _ _ _,
      fun id hid => SortedMap.get?_insert_of_ne hid⟩
  · obtain ⟨hrefused, rfl⟩ := backend_save_eq_error_iff.1 hsave
    rw [← h.version?_eq]
    exact ⟨eq_concurrentModification_of_save hrefused, rfl⟩
  · show (Except.ok (l.store.load id), l.store) = _
    rw [CandidateStore.load, h.kept]

-- a save that expects too much and one that comes too late are refused, those in between are not
example :
    let c := Candidate.create ⟨"p"⟩
      ⟨.academicArticle, ⟨"j", .journal, .levelOne⟩, false, .one, .one, 0, .zero, []⟩
    let l := run [.save c (some 1), .save c none, .load c.id, .save c (some 1), .save c none]
    ((l.accepted c.id).map StoredCandidate.version, l.current c.id) = ([1, 2], some 2) := by
  decide +kernel

end Ledger

end PublicationIndicator
