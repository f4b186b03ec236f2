/-!
# PublicationIndicator.Ordered.Key — values told apart by a text

Organizations, candidates and people are named by opaque texts.  `Keyed` says that a type's values
are determined by such a text; sorted collections put them in the order of these texts, which is the
order of their code points.
-/

namespace PublicationIndicator

/-- A type whose values are told apart, and put in order, by a text. -/
class Keyed (κ : Type) where
  /-- The text that names a value. -/
  key : κ → String
  /-- Two values with the same text are the same value. -/
  key_injective : ∀ {a b : κ}, key a = key b → a = b

export Keyed (key)

instance : Keyed String where
  key s := s
  key_injective h := h

section

variable {κ : Type} [Keyed κ] {a b c : κ}

theorem key_inj : key a = key b ↔ a = b :=
  ⟨Keyed.key_injective, fun h => h ▸ rfl⟩

theorem not_key_lt_self : ¬ key a < key a := String.lt_irrefl _

theorem key_lt_trans (h : key a < key b) (h' : key b < key c) : key a < key c :=
  String.lt_trans h h'

/-- Of two different values one comes first. -/
theorem key_lt_of_not_lt (h : ¬ key a < key b) (h' : key a ≠ key b) : key b < key a := by
  rcases Classical.em (key b < key a) with h'' | h''
  · exact h''
  · exact absurd (String.le_antisymm (String.not_lt.1 h'') (String.not_lt.1 h)) h'

end

end PublicationIndicator
