import PublicationIndicator.Service.Session

/-!
# PublicationIndicator.Service.Shared — a store in memory that others write to

A `SharedStore` is a store in memory with what others save on it while a session goes on: each time the
session is about to save, the others come first with the next of their saves, of any candidates and on
any versions.  What they do is planned beforehand and does not depend on the session.
-/

namespace PublicationIndicator

/-- A store, and what others save in front of each of the saves ahead: a candidate and the version that
it is to replace, any number of times; nothing after the end of the list. -/
structure SharedStore where
  store : CandidateStore
  others : List (List (Candidate × Option Nat))

namespace SharedStore

/-- The store after somebody's save, if that is carried out. -/
def land (store : CandidateStore) (save : Candidate × Option Nat) : CandidateStore :=
  match store.save save.1 save.2 with
  | .ok (_, store) => store
  | .error _ => store

/-- The others carry out the saves that they come with next. -/
def giveWay (s : SharedStore) : SharedStore :=
  ⟨(s.others.headD []).foldl land s.store, s.others.tail⟩

/-- Loads a candidate. -/
def load (id : CandidateId) (s : SharedStore) :
    Except StoreError (Option StoredCandidate) × SharedStore :=
  (.ok (s.store.load id), s)

/-- Saves a candidate, after the others. -/
def save (c : Candidate) (expected : Option Nat) (s : SharedStore) :
    Except StoreError Nat × SharedStore :=
  let s := s.giveWay
  match s.store.save c expected with
  | .ok (version, store) => (.ok version, { s with store := store })
  | .error e => (.error e, s)

/-- The shared store as a backend of sessions; the outlet says which notifications are taken. -/
def backend (outlet : StoredCandidate → Except PublishError Unit) : Session.Backend SharedStore :=
  ⟨load, save, fun u s => (outlet u, s)⟩

end SharedStore

end PublicationIndicator
