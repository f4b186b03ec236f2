import PublicationIndicator.Ordered.Set
import PublicationIndicator.Ordered.Map
import PublicationIndicator.Decimal.Points
import PublicationIndicator.Decimal.Text
import PublicationIndicator.Instant.Text
import PublicationIndicator.Json.Decode
import PublicationIndicator.Json.Writer
import PublicationIndicator.Organization.Forest
import PublicationIndicator.Organization.Arena
import PublicationIndicator.Organization.Hierarchy
import PublicationIndicator.Organization.Registry
import PublicationIndicator.Organization.Snapshot
import PublicationIndicator.Points.Table
import PublicationIndicator.Points.Calculation
import PublicationIndicator.Points.Scoring
import PublicationIndicator.Approval.Basic
import PublicationIndicator.Approval.Consensus
import PublicationIndicator.Candidate.Basic
import PublicationIndicator.Candidate.Store
import PublicationIndicator.Candidate.View
import PublicationIndicator.Wire.Scalar
import PublicationIndicator.Wire.Organization
import PublicationIndicator.Wire.Publication
import PublicationIndicator.Wire.Points
import PublicationIndicator.Wire.Approval
import PublicationIndicator.Wire.Candidate
import PublicationIndicator.Service.Session
import PublicationIndicator.Service.Error
import PublicationIndicator.Service.Evaluation
import PublicationIndicator.Service.Scripted
import PublicationIndicator.Http.Status
import PublicationIndicator.Settings.Address
import PublicationIndicator.Settings.Basic
import PublicationIndicator.ProgramError
import PublicationIndicator.Http.Percent
import PublicationIndicator.Http.Target
import PublicationIndicator.Http.MediaType
import PublicationIndicator.Http.Request
import PublicationIndicator.Http.Route
import PublicationIndicator.Http.Router
import PublicationIndicator.Text.Quoted
import PublicationIndicator.Settings.LogFilter
import PublicationIndicator.Settings.EnvFile
import PublicationIndicator.Report.Score
import PublicationIndicator.Report.Demo
import PublicationIndicator.Cli.Arguments
import PublicationIndicator.Cli.Run
import PublicationIndicator.Main
import PublicationIndicator.Proofs.Approval.Coherence
import PublicationIndicator.Proofs.Candidate.Coherence
import PublicationIndicator.Service.Interleaving
import PublicationIndicator.Proofs.Service.Careful
import PublicationIndicator.Proofs.Service.History
import PublicationIndicator.Proofs.Decimal.Value
import PublicationIndicator.Proofs.Decimal.Rounding
import PublicationIndicator.Proofs.Points.Share
import PublicationIndicator.Proofs.Points.Creators
import PublicationIndicator.Proofs.Traversal
import PublicationIndicator.Proofs.Points.Entry
import PublicationIndicator.Proofs.Decimal.Sum
import PublicationIndicator.Proofs.Points.Credits
import PublicationIndicator.Proofs.Points.Crowd
import PublicationIndicator.Proofs.Points.Soundness
import PublicationIndicator.Proofs.Organization.Linking
import PublicationIndicator.Proofs.Organization.Lineage
import PublicationIndicator.Proofs.Organization.Registry
import PublicationIndicator.Proofs.Organization.Inquiry
import PublicationIndicator.Proofs.Organization.Snapshot
import PublicationIndicator.Proofs.Points.Agreement
import PublicationIndicator.Proofs.Organization.Ancestry
import PublicationIndicator.Proofs.Organization.Declaration
import PublicationIndicator.Proofs.Points.Refusal
import PublicationIndicator.Proofs.Points.Stakes
import PublicationIndicator.Proofs.Points.Conservation
import PublicationIndicator.Proofs.Points.Accounting
import PublicationIndicator.Proofs.Candidate.Decision
import PublicationIndicator.Proofs.Candidate.Independence
import PublicationIndicator.Proofs.Service.Decision
import PublicationIndicator.Proofs.Service.Exchange
import PublicationIndicator.Proofs.Service.Atomicity
import PublicationIndicator.Proofs.Candidate.Recalculation
import PublicationIndicator.Proofs.Service.Contention
import PublicationIndicator.Proofs.Service.Convergence
import PublicationIndicator.Proofs.Service.Alone
import PublicationIndicator.Proofs.Service.Reevaluation
import PublicationIndicator.Proofs.Http.Review
import PublicationIndicator.Proofs.Http.Percent
import PublicationIndicator.Proofs.Http.View
import PublicationIndicator.Proofs.Cli.Scoring
import PublicationIndicator.Proofs.Points.Failures
import PublicationIndicator.Proofs.Points.Canonical
import PublicationIndicator.Proofs.Candidate.Applicability
import PublicationIndicator.Proofs.Service.Notification
import PublicationIndicator.Proofs.Service.Applicability
import PublicationIndicator.Proofs.Service.Transcript
import PublicationIndicator.Proofs.Service.Rivalry
import PublicationIndicator.Proofs.Text.Digits
import PublicationIndicator.Proofs.Decimal.Text
import PublicationIndicator.Proofs.Instant.Text
import PublicationIndicator.Proofs.Json.Scalar
import PublicationIndicator.Proofs.Json.Reading
import PublicationIndicator.Proofs.Json.Records
import PublicationIndicator.Proofs.Wire.Scalar
import PublicationIndicator.Proofs.Wire.RoundTrip
import PublicationIndicator.Proofs.Candidate.Commutation
import PublicationIndicator.Service.Shared
import PublicationIndicator.Proofs.Service.Retry
import PublicationIndicator.Proofs.Organization.Descendants
import PublicationIndicator.Proofs.Organization.Arena
import PublicationIndicator.Proofs.Organization.Walks
import PublicationIndicator.Proofs.Organization.Culprit
import PublicationIndicator.Proofs.Organization.Greedy
import PublicationIndicator.Proofs.Points.Rearrangement
import PublicationIndicator.Proofs.Approval.Consensus
import PublicationIndicator.Proofs.Candidate.GlobalStatus
import PublicationIndicator.Proofs.Candidate.View
import PublicationIndicator.Proofs.Service.View
import PublicationIndicator.Proofs.Points.Explanation
import PublicationIndicator.Proofs.Service.Ledger
import PublicationIndicator.Proofs.Organization.Climb
import PublicationIndicator.Proofs.Decimal.Nearest
