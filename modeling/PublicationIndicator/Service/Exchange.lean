import PublicationIndicator.Service.Session

/-!
# PublicationIndicator.Service.Exchange — the calls of a session with their answers

When a backend runs a session, each call of the session meets an answer.  `Session.exchanges` lists them
in their order; what was written, offered and taken on the way is read off that list.
-/

namespace PublicationIndicator

/-- A call on the store or the outlet for notifications, with its answer. -/
inductive Exchange where
  | load (id : CandidateId) (answer : Except StoreError (Option StoredCandidate))
  | save (candidate : Candidate) (expected : Option Nat) (answer : Except StoreError Nat)
  | publish (update : StoredCandidate) (answer : Except PublishError Unit)

namespace Exchange

/-- Was the store asked to write? -/
def isSave : Exchange → Bool
  | save _ _ _ => true
  | _ => false

/-- Was the store asked to load? -/
def isLoad : Exchange → Bool
  | load _ _ => true
  | _ => false

/-- Did a save meet another version than the one that it was to replace? -/
def isConflict : Exchange → Bool
  | save _ _ (.error (.concurrentModification _ _ _)) => true
  | _ => false

/-- What was written. -/
def written? : Exchange → Option StoredCandidate
  | save c _ (.ok version) => some ⟨c, version⟩
  | _ => none

/-- The notification that was offered, whether it was taken or not. -/
def offered? : Exchange → Option StoredCandidate
  | publish u _ => some u
  | _ => none

/-- The notification that was taken. -/
def taken? : Exchange → Option StoredCandidate
  | publish u (.ok ()) => some u
  | _ => none

end Exchange

/-- The calls that a session makes on a backend, in their order. -/
def Session.exchanges {α σ : Type} (b : Backend σ) : Session α → σ → List Exchange
  | done _, _ => []
  | load id next, w =>
    let (r, w) := b.load id w
    .load id r :: (next r).exchanges b w
  | save c expected next, w =>
    let (r, w) := b.save c expected w
    .save c expected r :: (next r).exchanges b w
  | publish u next, w =>
    let (r, w) := b.publish u w
    .publish u r :: (next r).exchanges b w

end PublicationIndicator
