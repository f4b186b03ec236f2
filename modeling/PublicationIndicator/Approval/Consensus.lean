import PublicationIndicator.Approval.Basic

/-!
# PublicationIndicator.Approval.Consensus — the course of an approval and what all of them come to

The transitions of one approval, requests against the approvals of a publication, and the status that
these come to together: a dispute as soon as one institution approves what another rejects.
-/

namespace PublicationIndicator

namespace Approval

/-- The approval of an institution that has just earned points. -/
def fresh (institution : OrganizationId) (involved : SortedSet OrganizationId) : Approval where
  institution := institution
  status := .new
  assignee := none
  involvedOrganizations := involved
  finalizedBy := none
  finalizedDate := none
  reason := none

/-- An approval that somebody works on is not new. -/
def normalized (a : Approval) : Approval :=
  if a.status = .new ∧ a.assignee.isSome then { a with status := .pending } else a

/-! ### Transitions -/

/-- The refusal of an action on the approval as it stands. -/
def refusal (a : Approval) (action : ApprovalAction) : ApprovalError :=
  .invalidState a.institution action.label a.status

/-- Somebody takes an approval that is not decided. -/
def assign (a : Approval) (reviewer : Username) : Except ApprovalError Approval :=
  if a.status.isTerminal then .error (a.refusal (.assign reviewer))
  else .ok { a with assignee := some reviewer, status := .pending }

/-- Nobody works on the approval any more; a decision stays. -/
def unassign (a : Approval) : Approval :=
  { a with assignee := none, status := if a.status.isTerminal then a.status else .new }

/-- The institution decides; a reason is kept for a rejection only. -/
def decide (a : Approval) (decision : ApprovalDecision) (reviewer : Username)
    (reason : Option String) (time : Instant) : Except ApprovalError Approval :=
  if a.status.isTerminal then .error (a.refusal (.decide decision reason))
  else .ok { a with
    status := decision.status
    finalizedBy := some reviewer
    finalizedDate := some time
    reason := if decision = .rejected then reason else none }

/-- A decision is taken back. -/
def reopen (a : Approval) : Except ApprovalError Approval :=
  if a.status.isTerminal then
    .ok { a with status := .pending, finalizedBy := none, finalizedDate := none, reason := none }
  else .error (a.refusal .reopen)

/-- What the actor asks for at that time. -/
def apply (a : Approval) (action : ApprovalAction) (actor : Username) (time : Instant) :
    Except ApprovalError Approval :=
  match action with
  | .assign assignee => a.assign assignee
  | .unassign => .ok a.unassign
  | .decide decision reason => a.decide decision actor reason time
  | .reopen => a.reopen

end Approval

/-! ### Counting -/

/-- How many statuses were counted, and how many of them are approvals and rejections. -/
structure Tally where
  count : Nat
  approved : Nat
  rejected : Nat

namespace Tally

/-- Nothing was counted. -/
def empty : Tally := ⟨0, 0, 0⟩

/-- Counts one more status. -/
def add (t : Tally) : ApprovalStatus → Tally
  | .approved => { t with count := t.count + 1, approved := t.approved + 1 }
  | .rejected => { t with count := t.count + 1, rejected := t.rejected + 1 }
  | .new | .pending => { t with count := t.count + 1 }

/-- What the statuses come to that were counted: a dispute if some institution approves and another
rejects, the institutions' common decision if they all have the same, and otherwise nothing yet. -/
def outcome (t : Tally) : GlobalStatus :=
  if t.count = 0 then .pending
  else if 0 < t.approved ∧ 0 < t.rejected then .dispute
  else if t.approved = t.count then .approved
  else if t.rejected = t.count then .rejected
  else .pending

end Tally

/-! ### The approvals of a publication -/

namespace Approvals

/-- Carries out a request on the approval of the institution that it names. -/
def apply (as : Approvals) (r : ApprovalRequest) (time : Instant) : Except ApprovalError Approvals :=
  match as.get? r.institution with
  | none => .error (.notFound r.institution)
  | some a =>
    match a.apply r.action r.actor time with
    | .error e => .error e
    | .ok a' => .ok (as.insert r.institution a')

/-- What statuses come to. -/
def consensus (statuses : List ApprovalStatus) : GlobalStatus :=
  (statuses.foldl Tally.add .empty).outcome

/-- What the approvals come to. -/
def globalStatus (as : Approvals) : GlobalStatus := consensus (as.values.map Approval.status)

/-- How many approvals have that status. -/
def countWith (as : Approvals) (s : ApprovalStatus) : Nat :=
  (as.values.filter (fun a => a.status = s)).length

/-- Normalizes every approval. -/
def normalized (as : Approvals) : Approvals := as.mapValues Approval.normalized

end Approvals

end PublicationIndicator
