import PublicationIndicator.Candidate.Store

/-!
# PublicationIndicator.Service.Session — calls on a store, one after the other

A `Session` is what somebody does with a store and the outlet for notifications: it makes one call,
goes on with the answer, and ends with a result.  Each call is carried out at once, but between two
calls anything may happen to the store.  `Session.run` lets a backend answer all calls in a row.
-/

namespace PublicationIndicator

/-- Why a notification is not taken. -/
structure PublishError where
  reason : String
deriving DecidableEq

/-- The error in words. -/
def PublishError.message (e : PublishError) : String :=
  "notification transport unavailable: " ++ e.reason

/-- Calls on a store and the outlet for notifications, up to a result. -/
inductive Session (α : Type) where
  | done (result : α)
  | load (id : CandidateId) (next : Except StoreError (Option StoredCandidate) → Session α)
  | save (candidate : Candidate) (expected : Option Nat) (next : Except StoreError Nat → Session α)
  | publish (update : StoredCandidate) (next : Except PublishError Unit → Session α)

namespace Session

variable {α β : Type}

/-- Goes on with the result of a session. -/
def andThen (s : Session α) (f : α → Session β) : Session β :=
  match s with
  | done a => f a
  | load id next => load id fun r => (next r).andThen f
  | save c expected next => save c expected fun r => (next r).andThen f
  | publish u next => publish u fun r => (next r).andThen f

instance : Monad Session where
  pure := done
  bind := andThen

/-- What answers the calls of a session, given a state. -/
structure Backend (σ : Type) where
  load : CandidateId → σ → Except StoreError (Option StoredCandidate) × σ
  save : Candidate → Option Nat → σ → Except StoreError Nat × σ
  publish : StoredCandidate → σ → Except PublishError Unit × σ

/-- The result of a session whose calls a backend answers, and the state in the end. -/
def run {σ : Type} (b : Backend σ) : Session α → σ → α × σ
  | done a, w => (a, w)
  | load id next, w =>
    let (r, w) := b.load id w
    (next r).run b w
  | save c expected next, w =>
    let (r, w) := b.save c expected w
    (next r).run b w
  | publish u next, w =>
    let (r, w) := b.publish u w
    (next r).run b w

end Session

/-! ### A store in memory -/

/-- The store as a backend of sessions: it answers every call, and every notification is taken. -/
def CandidateStore.backend : Session.Backend CandidateStore where
  load id s := (.ok (s.load id), s)
  save c expected s :=
    match s.save c expected with
    | .ok (version, s) => (.ok version, s)
    | .error e => (.error e, s)
  publish _ s := (.ok (), s)

end PublicationIndicator
