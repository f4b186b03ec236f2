import PublicationIndicator.Service.Session

/-!
# PublicationIndicator.Service.Scripted — a store that can be told to fail

A `ScriptedStore` is a store in memory whose calls can be made to fail, that can pretend that somebody
else has written, and that lets requests queued beforehand be carried out just in front of a write.
It remembers the notifications that it took.
-/

namespace PublicationIndicator

/-- A request on a stored candidate that is carried out when its turn comes. -/
structure QueuedRequest where
  id : CandidateId
  request : ApprovalRequest
  time : Instant

/-- A store and what is to go wrong with it. -/
structure ScriptedStore where
  store : CandidateStore
  failLoad : Option String
  failSave : Option String
  failPublish : Option String
  /-- How many of the next writes meet a newer version. -/
  conflicts : Nat
  /-- What is carried out in front of the next writes, one each. -/
  queue : List QueuedRequest
  /-- The notifications taken, in their order. -/
  published : List StoredCandidate

namespace ScriptedStore

/-- An empty store with which nothing goes wrong. -/
def fresh : ScriptedStore := ⟨.empty, none, none, none, 0, [], []⟩

/-- Loads a candidate, unless loading fails. -/
def load (id : CandidateId) (s : ScriptedStore) :
    Except StoreError (Option StoredCandidate) × ScriptedStore :=
  match s.failLoad with
  | some reason => (.error (.unavailable reason), s)
  | none => (.ok (s.store.load id), s)

/-- Carries out a request without telling anybody, if it is possible. -/
def carryOut (store : CandidateStore) (q : QueuedRequest) : CandidateStore :=
  match store.load q.id with
  | none => store
  | some current =>
    match current.candidate.apply (.approval q.request q.time) with
    | .error _ => store
    | .ok next =>
      match store.save next (some current.version) with
      | .error _ => store
      | .ok (_, store) => store

/-- Carries out the first request that waits. -/
def interleave (s : ScriptedStore) : ScriptedStore :=
  match s.queue with
  | [] => s
  | q :: rest => { s with store := carryOut s.store q, queue := rest }

/-- Saves a candidate, unless saving fails or is to meet a newer version. -/
def save (c : Candidate) (expected : Option Nat) (s : ScriptedStore) :
    Except StoreError Nat × ScriptedStore :=
  match s.failSave with
  | some reason => (.error (.unavailable reason), s)
  | none =>
    match s.conflicts with
    | n + 1 =>
      (.error (.concurrentModification c.id expected (s.store.version? c.id)), { s with conflicts := n })
    | 0 =>
      let s := s.interleave
      match s.store.save c expected with
      | .error e => (.error e, s)
      | .ok (version, store) => (.ok version, { s with store := store })

/-- Takes a notification, unless that fails. -/
def publish (u : StoredCandidate) (s : ScriptedStore) : Except PublishError Unit × ScriptedStore :=
  match s.failPublish with
  | some reason => (.error ⟨reason⟩, s)
  | none => (.ok (), { s with published := s.published ++ [u] })

/-- The scripted store as a backend of sessions. -/
def backend : Session.Backend ScriptedStore := ⟨load, save, publish⟩

end ScriptedStore

end PublicationIndicator
