import PublicationIndicator.Organization.Hierarchy
import PublicationIndicator.Publication.Facts

/-!
# PublicationIndicator.Organization.Snapshot — the trees of some affiliations

A snapshot asks a provider for each affiliation once and puts the chains together one at a time.  An
affiliation that the provider does not deliver, or whose chain contradicts what is linked already, is
left out and reported.
-/

namespace PublicationIndicator

/-- What a provider delivered for some affiliations, and which of them failed why. -/
structure Snapshot where
  hierarchy : Hierarchy
  failures : List (OrganizationId × FetchError)

namespace Snapshot

/-- Nothing was asked for. -/
def empty : Snapshot := ⟨.empty, []⟩

/-- Takes in what was delivered for an affiliation. -/
def receive (s : Snapshot) (id : OrganizationId) (answer : Except FetchError (List Organization)) :
    Snapshot :=
  match answer with
  | .error e => { s with failures := s.failures ++ [(id, e)] }
  | .ok chain =>
    match s.hierarchy.extend chain with
    | .error e => { s with failures := s.failures ++ [(id, .inconsistent e)] }
    | .ok h => { s with hierarchy := h }

/-- Asks for one affiliation and adds its chain. -/
def add (provider : OrganizationProvider) (s : Snapshot) (id : OrganizationId) : Snapshot :=
  s.receive id (provider id)

/-! ### Asking once -/

/-- A snapshot in the making, and the affiliations that were asked for. -/
structure Inquiry where
  requested : SortedSet OrganizationId
  snapshot : Snapshot

variable {m : Type → Type} [Monad m]

/-- Asks for one affiliation, unless it was asked for before. -/
def Inquiry.ask (fetch : OrganizationId → m (Except FetchError (List Organization))) (q : Inquiry)
    (id : OrganizationId) : m Inquiry :=
  if id ∈ q.requested then pure q
  else do
    let answer ← fetch id
    pure ⟨q.requested.insert id, q.snapshot.receive id answer⟩

/-- Asks for affiliations one after the other, whatever else it takes to ask. -/
def gather (fetch : OrganizationId → m (Except FetchError (List Organization)))
    (affiliations : List OrganizationId) : m Snapshot := do
  let q ← affiliations.foldlM (Inquiry.ask fetch) ⟨.empty, empty⟩
  pure q.snapshot

/-- Asks a provider for each of the affiliations. -/
def take (provider : OrganizationProvider) (affiliations : List OrganizationId) : Snapshot :=
  Id.run (gather (fun id => pure (provider id)) affiliations)

end Snapshot

end PublicationIndicator
