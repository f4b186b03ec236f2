import PublicationIndicator.Candidate.Basic

/-!
# PublicationIndicator.Candidate.Store — candidates kept with a version

The store keeps one candidate under each name, with a number that grows by one with every write.  A
write says which version it expects to replace, and is refused if another one is kept.
-/

namespace PublicationIndicator

/-- A candidate and the version at which it is kept. -/
structure StoredCandidate where
  candidate : Candidate
  version : Nat
deriving BEq, ReflBEq

/-- Why a store does not answer. -/
inductive StoreError where
  | concurrentModification (id : CandidateId) (expected actual : Option Nat)
  | notFound
  | unavailable (reason : String)
deriving DecidableEq

/-- A version or its absence, as it stands in messages. -/
def versionText : Option Nat → String
  | some v => s!"Some({v})"
  | none => "None"

/-- The error in words. -/
def StoreError.message : StoreError → String
  | concurrentModification id expected actual =>
    s!"candidate {id} was modified concurrently (expected version " ++ versionText expected ++
      ", found " ++ versionText actual ++ ")"
  | notFound => "candidate not found"
  | unavailable reason => s!"repository unavailable: {reason}"

/-- Candidates by name, each with its version. -/
structure CandidateStore where
  records : SortedMap CandidateId StoredCandidate

namespace CandidateStore

/-- Nothing is kept. -/
def empty : CandidateStore := ⟨.empty⟩

/-- The version at which a candidate is kept. -/
def version? (s : CandidateStore) (id : CandidateId) : Option Nat :=
  (s.records.get? id).map StoredCandidate.version

/-- The candidate kept under a name, normalized. -/
def load (s : CandidateStore) (id : CandidateId) : Option StoredCandidate :=
  (s.records.get? id).map fun r => { r with candidate := r.candidate.normalized }

/-- Keeps a candidate in place of the expected version: the answer is its new version. -/
def save (s : CandidateStore) (c : Candidate) (expected : Option Nat) :
    Except StoreError (Nat × CandidateStore) :=
  let actual := s.version? c.id
  if actual = expected then
    let version := actual.elim 1 (· + 1)
    .ok (version, ⟨s.records.insert c.id ⟨c, version⟩⟩)
  else .error (.concurrentModification c.id expected actual)

/-- A write is carried out if it expects the version that is kept. -/
theorem save_eq_ok_iff {s s' : CandidateStore} {c : Candidate} {expected : Option Nat}
    {version : Nat} : s.save c expected = .ok (version, s') ↔ s.version? c.id = expected ∧
      version = expected.elim 1 (· + 1) ∧ s' = ⟨s.records.insert c.id ⟨c, version⟩⟩ := by
  rw [save]
  by_cases h : s.version? c.id = expected
  · simp only [h, if_true, Except.ok.injEq, Prod.mk.injEq, true_and]
    constructor
    · rintro ⟨rfl, rfl⟩
      exact ⟨rfl, rfl⟩
    · rintro ⟨rfl, rfl⟩
      exact ⟨rfl, rfl⟩
  · simp [h]

end CandidateStore

end PublicationIndicator
