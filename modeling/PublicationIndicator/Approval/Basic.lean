import PublicationIndicator.Instant.Basic
import PublicationIndicator.Ordered.Map
import PublicationIndicator.Ordered.Set
import PublicationIndicator.Publication.Name

/-!
# PublicationIndicator.Approval.Basic — what an institution says to its share

Each institution with points in a publication approves or rejects its share.  An approval is new until
somebody takes it, pending until it is decided, and then approved or rejected; only a decided one has
a decider, a date and perhaps a reason.
-/

namespace PublicationIndicator

/-- Where an institution's approval stands. -/
inductive ApprovalStatus where
  | new
  | pending
  | approved
  | rejected
deriving DecidableEq

namespace ApprovalStatus

/-- The status in lower case, as it is written in documents. -/
def label : ApprovalStatus → String
  | new => "new"
  | pending => "pending"
  | approved => "approved"
  | rejected => "rejected"

/-- The status with a capital, as it stands in messages. -/
def name : ApprovalStatus → String
  | new => "New"
  | pending => "Pending"
  | approved => "Approved"
  | rejected => "Rejected"

/-- Has the institution decided? -/
def isTerminal : ApprovalStatus → Bool
  | approved | rejected => true
  | _ => false

end ApprovalStatus

/-- Where the institutions stand together. -/
inductive GlobalStatus where
  | pending
  | approved
  | rejected
  | dispute
deriving DecidableEq

/-- The status in lower case. -/
def GlobalStatus.label : GlobalStatus → String
  | pending => "pending"
  | approved => "approved"
  | rejected => "rejected"
  | dispute => "dispute"

/-- An institution's approval of its share. -/
structure Approval where
  institution : OrganizationId
  status : ApprovalStatus
  /-- Who works on it. -/
  assignee : Option Username
  /-- The parts of the institution through which it earns points. -/
  involvedOrganizations : SortedSet OrganizationId
  finalizedBy : Option Username
  finalizedDate : Option Instant
  /-- Why it was rejected. -/
  reason : Option String
deriving DecidableEq

/-- The approvals of a publication, by institution. -/
abbrev Approvals := SortedMap OrganizationId Approval

/-- What an institution may decide. -/
inductive ApprovalDecision where
  | approved
  | rejected
deriving DecidableEq

namespace ApprovalDecision

/-- The status that a decision leads to. -/
def status : ApprovalDecision → ApprovalStatus
  | approved => .approved
  | rejected => .rejected

/-- The decision in lower case. -/
def label (d : ApprovalDecision) : String := d.status.label

end ApprovalDecision

/-- What somebody asks to be done with an approval. -/
inductive ApprovalAction where
  | assign (assignee : Username)
  | unassign
  | decide (decision : ApprovalDecision) (reason : Option String)
  | reopen
deriving DecidableEq

/-- The action's name. -/
def ApprovalAction.label : ApprovalAction → String
  | assign _ => "assign"
  | unassign => "unassign"
  | decide _ _ => "decide"
  | reopen => "reopen"

/-- A request to act on the approval of one institution. -/
structure ApprovalRequest where
  institution : OrganizationId
  action : ApprovalAction
  actor : Username
  /-- The version of the candidate that the request is based on. -/
  expectedVersion : Option Nat
deriving DecidableEq

/-- Why a request is refused. -/
inductive ApprovalError where
  | notFound (institution : OrganizationId)
  | invalidState (institution : OrganizationId) (action : String) (status : ApprovalStatus)
deriving DecidableEq

/-- The refusal in words. -/
def ApprovalError.message : ApprovalError → String
  | notFound id => s!"no approval exists for institution {id}"
  | invalidState id action status =>
    s!"cannot {action} approval for {id} while it is " ++ status.name

end PublicationIndicator
