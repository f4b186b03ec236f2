import PublicationIndicator.Service.Evaluation

/-!
# PublicationIndicator.Service.Interleaving — many clients on one store

Clients evaluate publications and act on approvals, each by a session of its own, and all of them on one
store in memory.  Each call on the store is carried out at once, but the calls of different clients
follow each other in any order.  A `System` is the store together with what each client has still to do
and with all writes that were carried out; `System.run` lets clients move in a given order, and `System.play`
also lets the store fail.
-/

namespace PublicationIndicator.Service

/-- What a client asks of the service. -/
inductive Call where
  | evaluate (provider : OrganizationProvider) (attempts : Nat) (facts : PublicationFacts)
  | updateApproval (id : CandidateId) (request : ApprovalRequest) (time : Instant)

/-- What the service answers. -/
inductive Answer where
  | report (result : Except ServiceError EvaluationReport)
  | stored (result : Except ServiceError StoredCandidate)

namespace Call

/-- The session of a call. -/
def session : Call → Session Answer
  | evaluate provider attempts facts => do
    return .report (← Service.evaluate provider attempts facts)
  | updateApproval id request time => do
    return .stored (← Service.updateApproval id request time)

/-- The candidate that the call is about. -/
def target : Call → CandidateId
  | evaluate _ _ facts => facts.candidate
  | updateApproval id _ _ => id

/-- What the call wants to happen to a stored candidate, if it wants anything. -/
def event? : Call → Option CandidateEvent
  | evaluate provider _ facts =>
    match scoreThrough provider facts with
    | .ok e => some (.pointsCalculated e.calculation)
    | .error (.invalidFacts _) => some .notApplicable
    | .error (.defect _) => none
  | updateApproval _ request time => some (.approval request time)

/-- The candidate that the call makes where none is stored, if it makes any. -/
def creation? : Call → Option Candidate
  | evaluate provider _ facts =>
    match scoreThrough provider facts with
    | .ok e => some (.create facts.publication e.calculation)
    | .error _ => none
  | updateApproval _ _ _ => none

end Call

/-- The calls of somebody who makes one after the other, whatever the answers are. -/
def inTurn : List Call → Session (List Answer)
  | [] => .done []
  | call :: rest => do
    let answer ← call.session
    return answer :: (← inTurn rest)

/-- A call and what is left of its session. -/
structure Running where
  call : Call
  rest : Session Answer

/-- Is nothing left to do? -/
def Running.finished (r : Running) : Bool :=
  match r.rest with
  | .done _ => true
  | _ => false

/-- A write that was carried out: whose it was, on which call, and what it stored. -/
structure Write (ι : Type) where
  client : ι
  call : Call
  stored : StoredCandidate

/-- A store and its clients. -/
structure System (ι : Type) where
  store : CandidateStore
  /-- The call that each client is at, or its last one. -/
  running : ι → Option Running
  /-- All writes, in their order. -/
  writes : List (Write ι)

/-- What a client does next: it makes a new call on the service, or the next call on the store.  Whether
a notification is taken is not up to the store. -/
inductive Move (ι : Type) where
  | begin (client : ι) (call : Call)
  | proceed (client : ι) (outlet : Except PublishError Unit)

namespace System

variable {ι : Type} [DecidableEq ι]

/-- Nothing is stored and nobody has done anything. -/
def initial : System ι := ⟨.empty, fun _ => none, []⟩

/-- The client is at `r` now. -/
def goOn (s : System ι) (client : ι) (r : Running) : System ι :=
  { s with running := fun i => if i = client then some r else s.running i }

/-- The next call on the store of a client that is at `r`. -/
def proceed (s : System ι) (client : ι) (r : Running) (outlet : Except PublishError Unit) : System ι :=
  match r.rest with
  | .done _ => s
  | .load id next => s.goOn client ⟨r.call, next (.ok (s.store.load id))⟩
  | .save c expected next =>
    match s.store.save c expected with
    | .ok (version, store) =>
      { s.goOn client ⟨r.call, next (.ok version)⟩ with
        store := store
        writes := s.writes ++ [⟨client, r.call, ⟨c, version⟩⟩] }
    | .error e => s.goOn client ⟨r.call, next (.error e)⟩
  | .publish _ next => s.goOn client ⟨r.call, next outlet⟩

/-- The system after a move; one that is not possible changes nothing. -/
def step (s : System ι) : Move ι → System ι
  | .begin client call =>
    if (s.running client).all Running.finished then s.goOn client ⟨call, call.session⟩ else s
  | .proceed client outlet =>
    match s.running client with
    | some r => s.proceed client r outlet
    | none => s

/-- The system after some moves. -/
def run (s : System ι) (moves : List (Move ι)) : System ι := moves.foldl step s

/-- The writes of one candidate, in their order. -/
def history (s : System ι) (id : CandidateId) : List (Write ι) :=
  s.writes.filter (fun w => w.stored.candidate.id = id)

/-- Every client has made its call, and nobody has come to the store yet. -/
def started (store : CandidateStore) (calls : ι → Call) : System ι :=
  ⟨store, fun i => some ⟨calls i, (calls i).session⟩, []⟩

end System

/-! ### A store that fails -/

/-- What happens next where the store may fail: a client moves, or the client's next call on the store is
not carried out, with an error for an answer. -/
inductive Turn (ι : Type) where
  | move (m : Move ι)
  | fail (client : ι) (e : StoreError)

namespace System

variable {ι : Type} [DecidableEq ι]

/-- The next call on the store of a client that is at `r` fails. -/
def fail (s : System ι) (client : ι) (r : Running) (e : StoreError) : System ι :=
  match r.rest with
  | .load _ next => s.goOn client ⟨r.call, next (.error e)⟩
  | .save _ _ next => s.goOn client ⟨r.call, next (.error e)⟩
  | .done _ | .publish _ _ => s

/-- The system after a turn. -/
def turn (s : System ι) : Turn ι → System ι
  | .move m => s.step m
  | .fail client e =>
    match s.running client with
    | some r => s.fail client r e
    | none => s

/-- The system after some turns. -/
def play (s : System ι) (turns : List (Turn ι)) : System ι := turns.foldl turn s

end System

end PublicationIndicator.Service
