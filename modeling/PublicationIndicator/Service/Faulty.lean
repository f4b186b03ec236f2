import PublicationIndicator.Service.Session

/-!
# PublicationIndicator.Service.Faulty — a store whose calls go wrong as planned

A `FaultyStore` is a store in memory with a plan of what goes wrong: each call that is made may be told
beforehand not to be carried out and which error to answer instead, a conflict that is none among them.
-/

namespace PublicationIndicator

/-- A store, and for each kind of call what the calls ahead answer in place of being carried out: `none`
where nothing goes wrong, as after the end of a list. -/
structure FaultyStore where
  store : CandidateStore
  loads : List (Option StoreError)
  saves : List (Option StoreError)
  publishes : List (Option PublishError)

namespace FaultyStore

/-- Loads a candidate, unless that goes wrong. -/
def load (id : CandidateId) (s : FaultyStore) :
    Except StoreError (Option StoredCandidate) × FaultyStore :=
  let s' := { s with loads := s.loads.tail }
  match s.loads.head?.join with
  | some e => (.error e, s')
  | none => (.ok (s.store.load id), s')

/-- Saves a candidate, unless that goes wrong. -/
def save (c : Candidate) (expected : Option Nat) (s : FaultyStore) :
    Except StoreError Nat × FaultyStore :=
  let s' := { s with saves := s.saves.tail }
  match s.saves.head?.join with
  | some e => (.error e, s')
  | none =>
    match s.store.save c expected with
    | .error e => (.error e, s')
    | .ok (version, store) => (.ok version, { s' with store := store })

/-- Takes a notification, unless that goes wrong. -/
def publish (_ : StoredCandidate) (s : FaultyStore) : Except PublishError Unit × FaultyStore :=
  let s' := { s with publishes := s.publishes.tail }
  match s.publishes.head?.join with
  | some e => (.error e, s')
  | none => (.ok (), s')

/-- The faulty store as a backend of sessions. -/
def backend : Session.Backend FaultyStore := ⟨load, save, publish⟩

end FaultyStore

end PublicationIndicator
