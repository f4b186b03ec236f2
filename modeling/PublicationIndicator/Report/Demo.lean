import PublicationIndicator.Candidate.View
import PublicationIndicator.Decimal.Text
import PublicationIndicator.Organization.Registry
import PublicationIndicator.Service.Evaluation

/-!
# PublicationIndicator.Report.Demo — four scenarios played on an empty store

Each scenario evaluates a publication and lets institutions decide; the report tells what came of it.
-/

namespace PublicationIndicator.Report

/-- What is played. -/
inductive Scenario where
  | single
  | shared
  | dispute
  | recalculation
deriving DecidableEq

namespace Scenario

/-- All scenarios in their order. -/
def all : List Scenario := [single, shared, dispute, recalculation]

/-- The scenario's letter. -/
def letter : Scenario → String
  | single => "a"
  | shared => "b"
  | dispute => "c"
  | recalculation => "d"

/-- What the scenario shows. -/
def title : Scenario → String
  | single => "A: single creator"
  | shared => "B: two institutions"
  | dispute => "C: dispute and reopen"
  | recalculation => "D: institution loses its points"

end Scenario

/-! ### The publications -/

/-- A medical faculty. -/
def uioMed : OrganizationId := ⟨"https://org.example/uio/med"⟩

/-- The university of the medical faculty. -/
def uio : OrganizationId := ⟨"https://org.example/uio"⟩

/-- An engineering faculty. -/
def ntnuIe : OrganizationId := ⟨"https://org.example/ntnu/ie"⟩

/-- The university of the engineering faculty. -/
def ntnu : OrganizationId := ⟨"https://org.example/ntnu"⟩

/-- A research institute. -/
def sintef : OrganizationId := ⟨"https://org.example/sintef"⟩

/-- A creator with one affiliation. -/
def creator (name : String) (affiliation : OrganizationId) : Creator := ⟨.verified name, [affiliation]⟩

/-- An article in a journal of level one. -/
def article (publication : String) (creators : List Creator)
    (fits : creators.length + (creators.flatMap Creator.affiliations).length < 18446744073709551616) :
    PublicationFacts where
  publication := ⟨publication⟩
  instanceType := .academicArticle
  channel := ⟨"https://channels.example/journal/4711", .journal, .levelOne⟩
  creators := creators
  fits := fits

/-! ### The scenarios -/

/-- What is done on the store, up to a refusal. -/
abbrev Play := ExceptT ServiceError Session

/-- Evaluates a publication in the sample registry. -/
def evaluated (facts : PublicationFacts) : Play StoredCandidate :=
  ExceptT.mk (Service.evaluate OrganizationRegistry.sample.fetch 5 facts) >>= fun r => pure r.stored

/-- Lets an institution act on its approval. -/
def acted (time : Instant) (id : CandidateId) (institution : OrganizationId)
    (action : ApprovalAction) : Play StoredCandidate :=
  ExceptT.mk (Service.updateApproval id ⟨institution, action, ⟨"demo-curator"⟩, none⟩ time)

/-- Plays a scenario: what is told on the way, and the candidate in the end. -/
def play (time : Instant) : Scenario → Play (List String × StoredCandidate)
  | .single => do
    return ([], ← evaluated (article "demo-a" [creator "alice" uioMed] (by decide)))
  | .shared => do
    return ([], ← evaluated (article "demo-b" [creator "alice" uioMed, creator "bob" ntnuIe] (by decide)))
  | .dispute => do
    let s ← evaluated (article "demo-c" [creator "alice" uioMed, creator "bob" ntnuIe] (by decide))
    let id := s.candidate.id
    let _ ← acted time id uio (.decide .approved none)
    let disputed ← acted time id ntnu (.decide .rejected none)
    let reopened ← acted time id ntnu .reopen
    let settled ← acted time id ntnu (.decide .approved none)
    return ([
      "",
      s!"  after {ntnu} rejects: {disputed.candidate.globalStatus.label}",
      s!"  after {ntnu} reopens: {reopened.candidate.globalStatus.label}"], settled)
  | .recalculation => do
    let s ← evaluated (article "demo-d" [creator "alice" uioMed, creator "zed" sintef] (by decide))
    let _ ← acted time s.candidate.id sintef (.decide .approved none)
    let s ← evaluated (article "demo-d" [creator "alice" uioMed] (by decide))
    return ([
      "",
      s!"  after recalculation: {s.candidate.approvals.size} institution(s), " ++
        s.candidate.globalStatus.label], s)

/-! ### The report -/

/-- A candidate and its institutions. -/
def candidateLines (v : CandidateView) : List String :=
  (s!"  candidate {v.candidate} v{v.version} | {v.totalPoints} points | " ++
    s!"international: {v.isInternationalCollaboration} | status: {v.globalStatus.label}") ::
  v.institutions.map fun i => s!"  - {i.institution}: {i.points} points, {i.status.label}"

/-- What a scenario tells, played on an empty store. -/
def scenarioLines (time : Instant) (s : Scenario) : Except ServiceError (List String) :=
  match ((play time s).run.run CandidateStore.backend .empty).1 with
  | .ok (told, stored) => .ok (told ++ ["", "Scenario " ++ s.title] ++ candidateLines stored.view)
  | .error e => .error e

/-- What some scenarios tell. -/
def demoLines (time : Instant) (ss : List Scenario) : Except ServiceError (List String) :=
  (ss.mapM (scenarioLines time)).map fun parts => "NVI candidate engine demo" :: parts.flatten

end PublicationIndicator.Report
