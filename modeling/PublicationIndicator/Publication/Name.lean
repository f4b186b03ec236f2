import PublicationIndicator.Ordered.Key

/-!
# PublicationIndicator.Publication.Name — names of organizations, publications and people

Names come from outside and are opaque: nothing is read out of them, they are only compared.
-/

namespace PublicationIndicator

/-- The name of an organization in the registry. -/
structure OrganizationId where
  text : String
deriving DecidableEq

instance : Keyed OrganizationId where
  key := OrganizationId.text
  key_injective := by rintro ⟨a⟩ ⟨b⟩ h; exact congrArg _ h

instance : ToString OrganizationId := ⟨OrganizationId.text⟩

/-- The name of a publication. -/
structure PublicationId where
  text : String
deriving DecidableEq

/-- The name of a candidate. -/
structure CandidateId where
  text : String
deriving DecidableEq

instance : Keyed CandidateId where
  key := CandidateId.text
  key_injective := by rintro ⟨a⟩ ⟨b⟩ h; exact congrArg _ h

instance : ToString CandidateId := ⟨CandidateId.text⟩

/-- There is one candidate for each publication, and it has the publication's name. -/
def PublicationId.candidate (p : PublicationId) : CandidateId := ⟨p.text⟩

/-- The name of somebody who acts for an institution. -/
structure Username where
  text : String
deriving DecidableEq

end PublicationIndicator
