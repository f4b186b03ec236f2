import PublicationIndicator.Approval.Basic
import PublicationIndicator.Wire.Scalar

/-!
# PublicationIndicator.Wire.Approval — approvals and requests in documents
-/

namespace PublicationIndicator

open Decoder

/-! ### Statuses -/

/-- The status as a string. -/
def ApprovalStatus.toJson (s : ApprovalStatus) : Json := .string s.label

/-- A status. -/
def ApprovalStatus.decoder : Decoder ApprovalStatus :=
  choice ([.new, .pending, .approved, .rejected].map fun s => (s.label, s))

/-- The status as a string. -/
def GlobalStatus.toJson (s : GlobalStatus) : Json := .string s.label

/-- A status of all institutions together. -/
def GlobalStatus.decoder : Decoder GlobalStatus :=
  choice ([.pending, .approved, .rejected, .dispute].map fun s => (s.label, s))

/-- The decision as a string. -/
def ApprovalDecision.toJson (d : ApprovalDecision) : Json := .string d.label

/-- A decision. -/
def ApprovalDecision.decoder : Decoder ApprovalDecision :=
  choice ([.approved, .rejected].map fun d => (d.label, d))

/-! ### Approvals -/

namespace Approval

/-- The approval as an object, without the fields that it has nothing for. -/
def toJson (a : Approval) : Json :=
  .object ([("institution_id", a.institution.toJson), ("status", a.status.toJson)] ++
    fieldOf "assignee" Username.toJson a.assignee ++
    [("involved_organizations", a.involvedOrganizations.toJson OrganizationId.toJson)] ++
    fieldOf "finalized_by" Username.toJson a.finalizedBy ++
    fieldOf "finalized_date" Instant.toJson a.finalizedDate ++
    fieldOf "reason" Json.string a.reason)

/-- An approval. -/
def decoder : Decoder Approval :=
  record ["institution_id", "status", "assignee", "involved_organizations", "finalized_by",
      "finalized_date", "reason"] fun m =>
    mk <$> m.required "institution_id" OrganizationId.decoder
      <*> m.required "status" ApprovalStatus.decoder
      <*> m.optional "assignee" Username.decoder
      <*> m.withDefault "involved_organizations" .empty (SortedSet.decoder OrganizationId.decoder)
      <*> m.optional "finalized_by" Username.decoder
      <*> m.optional "finalized_date" Instant.decoder
      <*> m.optional "reason" string

end Approval

/-! ### Requests -/

namespace ApprovalAction

/-- The action as an object that says which one it is. -/
def toJson (a : ApprovalAction) : Json :=
  .object (("type", .string a.label) ::
    match a with
    | assign assignee => [("assignee", assignee.toJson)]
    | decide decision reason => ("decision", decision.toJson) :: fieldOf "reason" Json.string reason
    | unassign | reopen => [])

/-- An action without anything of its own: the fields beside its name do not matter. -/
def plain (a : ApprovalAction) : Decoder ApprovalAction
  | .object _ | .array [] => .ok a
  | _ => .error .mismatch

/-- A decision in an action: what stands behind its name may also be an empty object. -/
def decision : Decoder ApprovalDecision
  | .object [(name, .object [])] => ApprovalDecision.decoder (.string name)
  | j => ApprovalDecision.decoder j

/-- What stands beside an action's name. -/
def details? : String → Option (Decoder ApprovalAction)
  | "assign" => some <| record ["assignee"] fun m =>
      assign <$> m.required "assignee" Username.decoder
  | "unassign" => some (plain .unassign)
  | "decide" => some <| record ["decision", "reason"] fun m =>
      decide <$> m.required "decision" decision <*> m.optional "reason" string
  | "reopen" => some (plain .reopen)
  | _ => none

/-- An action, which stands in two pairs of brackets. -/
def decoder : Decoder ApprovalAction := internallyTagged "type" (depthLimit - 2) details?

end ApprovalAction

namespace ApprovalRequest

/-- The request as an object. -/
def toJson (r : ApprovalRequest) : Json :=
  .object ([("institution_id", r.institution.toJson), ("action", r.action.toJson),
      ("actor", r.actor.toJson)] ++
    fieldOf "expected_version" Json.ofNat r.expectedVersion)

/-- A request. -/
def decoder : Decoder ApprovalRequest :=
  record ["institution_id", "action", "actor", "expected_version"] fun m =>
    mk <$> m.required "institution_id" OrganizationId.decoder
      <*> m.required "action" ApprovalAction.decoder
      <*> m.required "actor" Username.decoder
      <*> m.optional "expected_version" versionDecoder

end ApprovalRequest

end PublicationIndicator
