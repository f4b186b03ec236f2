import Mathlib.Algebra.Group.Nat.Defs
import PublicationIndicator.Text.Digits

/-!
# PublicationIndicator.Proofs.Text.Digits — written numbers are read back

The digits of a number, with zeros in front or without, stand for the number (`digitsValue_toDigits`,
`digitsValue_padded`), and a run of digits is told from what stands behind it if that does not start with
a digit (`takeWhile_isDigit_append`).
-/

namespace PublicationIndicator.Text

variable {n width : Nat} {c : Char} {ds cs : List Char}

/-! ### The digits of a number -/

theorem isDigit_of_mem_toDigits (h : c ∈ Nat.toDigits 10 n) : isDigit c = true := by
  have hc : c.isDigit = true := Nat.isDigit_of_mem_toDigits (by omega) (by omega) h
  simp only [Char.isDigit, Bool.and_eq_true, decide_eq_true_eq] at hc
  simp only [isDigit, Bool.decide_and, Bool.and_eq_true, decide_eq_true_eq]
  exact hc

theorem digitsValue_toDigits (n : Nat) : digitsValue (Nat.toDigits 10 n) = n :=
  Nat.ofDigitChars_ten_toDigits

/-- Only zero starts with a zero. -/
theorem head?_toDigits_ne (h : n ≠ 0) : (Nat.toDigits 10 n).head? ≠ some '0' := by
  induction n using Nat.strongRecOn with
  | _ n ih =>
    rw [Nat.toDigits_eq_if (by omega)]
    split
    · rw [List.head?_cons, ne_eq, Option.some.injEq, Nat.digitChar_eq_zero]
      exact h
    · rw [List.head?_append, List.head?_eq_some_head Nat.toDigits_ne_nil, Option.some_or,
        ← List.head?_eq_some_head Nat.toDigits_ne_nil]
      exact ih (n / 10) (by omega) (by omega)

/-! ### Digits with zeros -/

theorem digitsValue_replicate_append (k : Nat) (ds : List Char) :
    digitsValue (List.replicate k '0' ++ ds) = digitsValue ds := by
  change Nat.ofDigitChars 10 _ 0 = Nat.ofDigitChars 10 _ 0
  rw [Nat.ofDigitChars_append, Nat.ofDigitChars_replicate_zero, Nat.mul_zero]

theorem digitsValue_append_replicate (ds : List Char) (k : Nat) :
    digitsValue (ds ++ List.replicate k '0') = 10 ^ k * digitsValue ds := by
  change Nat.ofDigitChars 10 _ 0 = _ * Nat.ofDigitChars 10 _ 0
  rw [Nat.ofDigitChars_append, Nat.ofDigitChars_replicate_zero]

theorem digitsValue_padded (width n : Nat) : digitsValue (padded width n) = n := by
  rw [padded, digitsValue_replicate_append, digitsValue_toDigits]

theorem isDigit_of_mem_padded (h : c ∈ padded width n) : isDigit c = true := by
  rcases List.mem_append.1 h with h | h
  · obtain rfl := List.eq_of_mem_replicate h
    rfl
  · exact isDigit_of_mem_toDigits h

theorem le_length_padded (width n : Nat) : width ≤ (padded width n).length := by
  rw [padded, List.length_append, List.length_replicate]
  omega

theorem length_padded (hw : 0 < width) (h : n < 10 ^ width) : (padded width n).length = width := by
  have hle := (Nat.length_toDigits_le_iff (b := 10) (by omega) hw).2 h
  rw [padded, List.length_append, List.length_replicate]
  omega

theorem padded_ne_nil (width n : Nat) : padded width n ≠ [] :=
  List.append_ne_nil_of_right_ne_nil _ Nat.toDigits_ne_nil

/-! ### Where a run of digits starts and ends -/

theorem exists_digit_cons (hne : ds ≠ []) (hds : ∀ c ∈ ds, isDigit c = true) :
    ∃ c rest, ds = c :: rest ∧ isDigit c = true := by
  cases ds with
  | nil => exact absurd rfl hne
  | cons c rest => exact ⟨c, rest, rfl, hds c List.mem_cons_self⟩

theorem exists_toDigits (n : Nat) : ∃ c rest, Nat.toDigits 10 n = c :: rest ∧ isDigit c = true :=
  exists_digit_cons Nat.toDigits_ne_nil fun _ hc => isDigit_of_mem_toDigits hc

theorem exists_padded (width n : Nat) : ∃ c rest, padded width n = c :: rest ∧ isDigit c = true :=
  exists_digit_cons (padded_ne_nil width n) fun _ hc => isDigit_of_mem_padded hc

/-- No digit stands at the front. -/
def StartsOtherwise (cs : List Char) : Prop := ∀ c, cs.head? = some c → isDigit c = false

theorem startsOtherwise_nil : StartsOtherwise [] := by
  intro c hc
  cases hc

theorem startsOtherwise_cons (h : isDigit c = false) : StartsOtherwise (c :: cs) := by
  intro c' hc
  cases hc
  exact h

theorem takeWhile_isDigit_append (hds : ∀ c ∈ ds, isDigit c = true) (hcs : StartsOtherwise cs) :
    (ds ++ cs).takeWhile isDigit = ds := by
  rw [List.takeWhile_append_of_pos hds]
  cases cs with
  | nil => simp
  | cons c cs => simp [hcs c rfl]

theorem dropWhile_isDigit_append (hds : ∀ c ∈ ds, isDigit c = true) (hcs : StartsOtherwise cs) :
    (ds ++ cs).dropWhile isDigit = cs := by
  rw [List.dropWhile_append_of_pos hds]
  cases cs with
  | nil => rfl
  | cons c cs => simp [hcs c rfl]

end PublicationIndicator.Text
