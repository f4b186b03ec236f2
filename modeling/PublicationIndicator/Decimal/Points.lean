import PublicationIndicator.Decimal.Basic

/-!
# PublicationIndicator.Decimal.Points — the form in which points are kept

Points are kept with four digits behind the point, a half rounded away from zero.  A number so large
that four such digits do not fit keeps as many as do.
-/

namespace PublicationIndicator.Decimal

theorem roundHalfUp_le {n d : Nat} (hd : 0 < d) : roundHalfUp n d ≤ n := by
  refine Nat.lt_succ_iff.1 (Nat.div_lt_of_lt_mul ?_)
  have h : n * 1 ≤ n * d := Nat.mul_le_mul_left n hd
  have h' : 2 * d * n.succ = 2 * (n * d) + 2 * d := by
    rw [Nat.mul_succ, Nat.mul_comm n d, Nat.mul_assoc]
  omega

theorem natAbs_sign_mul_le (a : Int) (n : Nat) : (a.sign * (n : Int)).natAbs ≤ n := by
  rw [Int.natAbs_mul]
  rcases Int.sign_trichotomy a with h | h | h <;> simp [h]

/-- `d` with at most `places` digits behind the point, a half rounded away from zero. -/
def roundTo (places : Nat) (d : Decimal) : Decimal :=
  if h : places < d.scale then
    { coefficient := d.coefficient.sign *
        roundHalfUp d.coefficient.natAbs (Nat.pow 10 (d.scale - places))
      scale := places
      coefficient_lt := Nat.lt_of_le_of_lt
        (Nat.le_trans (natAbs_sign_mul_le _ _) (roundHalfUp_le (Nat.pow_pos (by decide))))
        d.coefficient_lt
      scale_le := by have := d.scale_le; omega }
  else d

/-- `d` with `n` more digits behind the point, all zero, or as many of them as fit. -/
def pad (d : Decimal) : (n : Nat) → Decimal
  | 0 => d
  | n + 1 =>
    match ofParts? (d.coefficient * 10) (d.scale + 1) with
    | some d' => pad d' n
    | none => d

/-- How many digits behind the point are kept of points. -/
def pointScale : Nat := 4

/-- The form in which points are kept: four digits behind the point, a half rounded away from zero;
fewer digits if four do not fit. -/
def roundPoints (d : Decimal) : Decimal :=
  let rounded := d.roundTo pointScale
  rounded.pad (pointScale - rounded.scale)

end PublicationIndicator.Decimal
