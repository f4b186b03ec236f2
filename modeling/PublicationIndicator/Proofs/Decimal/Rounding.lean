import PublicationIndicator.Decimal.Points
import PublicationIndicator.Proofs.Decimal.Value

/-!
# PublicationIndicator.Proofs.Decimal.Rounding — the value of rounded points

Rounding points gives the nearest multiple of the fourth digit, a half away from zero
(`toRat_roundPoints`), with four digits behind the point wherever they fit (`scale_roundPoints`).
-/

namespace PublicationIndicator

/-- The nearest whole number; a half goes away from zero. -/
def roundHalfAway (q : ℚ) : ℤ := if 0 ≤ q then round q else -round (-q)

theorem roundHalfAway_of_nonneg {q : ℚ} (h : 0 ≤ q) : roundHalfAway q = round q := if_pos h

@[simp] theorem roundHalfAway_intCast (z : ℤ) : roundHalfAway z = z := by
  unfold roundHalfAway
  split
  · exact round_intCast z
  · rw [← Int.cast_neg, round_intCast, neg_neg]

namespace Decimal

variable {d : Decimal}

theorem roundHalfUp_eq (n : Nat) {m : Nat} (hm : 0 < m) :
    ((roundHalfUp n m : Nat) : ℤ) = round ((n : ℚ) / m) := by
  have hmq : (m : ℚ) ≠ 0 := by exact_mod_cast hm.ne'
  have h : (n : ℚ) / m + 1 / 2 = ((2 * n + m : ℕ) : ℚ) / ((2 * m : ℕ) : ℚ) := by
    push_cast
    field_simp
  rw [round_eq, h, Rat.floor_natCast_div_natCast, roundHalfUp]
  rfl

theorem sign_mul_roundHalfUp (c : Int) {m : Nat} (hm : 0 < m) :
    c.sign * (roundHalfUp c.natAbs m : ℕ) = roundHalfAway ((c : ℚ) / m) := by
  have hmq : (0 : ℚ) < m := by exact_mod_cast hm
  rw [roundHalfUp_eq _ hm, roundHalfAway]
  rcases lt_trichotomy c 0 with hc | rfl | hc
  · have hcq : (c : ℚ) < 0 := by exact_mod_cast hc
    have habs : ((c.natAbs : ℕ) : ℚ) = -c := by
      rw [Nat.cast_natAbs, abs_of_neg hc]
      push_cast
      rfl
    rw [if_neg (not_le.2 (div_neg_of_neg_of_pos hcq hmq)), Int.sign_eq_neg_one_of_neg hc, habs,
      neg_div]
    ring
  · simp
  · have hcq : (0 : ℚ) < c := by exact_mod_cast hc
    have habs : ((c.natAbs : ℕ) : ℚ) = c := by
      rw [Nat.cast_natAbs, abs_of_pos hc]
    rw [if_pos (div_pos hcq hmq).le, Int.sign_eq_one_of_pos hc, habs, one_mul]

/-! ### Cutting digits -/

/-- A decimal with no more than `n` digits behind the point, in units of the `n`-th digit. -/
theorem coefficient_mul_pow {n : Nat} (h : d.scale ≤ n) :
    ((d.coefficient * 10 ^ (n - d.scale) : ℤ) : ℚ) = d.toRat * 10 ^ n := by
  rw [toRat_eq]
  push_cast
  rw [div_mul_eq_mul_div, eq_div_iff (by positivity), mul_assoc, ← pow_add]
  congr 2
  omega

theorem toRat_roundTo (places : Nat) (d : Decimal) :
    (d.roundTo places).toRat = roundHalfAway (d.toRat * 10 ^ places) / 10 ^ places := by
  unfold roundTo
  split
  · rename_i h
    have hq : d.toRat * 10 ^ places = (d.coefficient : ℚ) / (Nat.pow 10 (d.scale - places) : ℕ) := by
      rw [toRat_eq, Nat.pow_eq]
      push_cast
      rw [div_mul_eq_mul_div, div_eq_div_iff (by positivity) (by positivity), mul_assoc, ← pow_add]
      congr 2
      omega
    have hpos : 0 < Nat.pow 10 (d.scale - places) := Nat.pow_pos (by decide)
    rw [toRat_eq, hq, ← sign_mul_roundHalfUp _ hpos]
  · rename_i h
    have hint := coefficient_mul_pow (not_lt.1 h)
    rw [← hint, roundHalfAway_intCast, hint, mul_div_assoc, div_self (by positivity), mul_one]

theorem scale_roundTo_le (places : Nat) (d : Decimal) : (d.roundTo places).scale ≤ places := by
  unfold roundTo
  split
  · exact le_rfl
  · rename_i h
    exact not_lt.1 h

/-! ### Adding zeros -/

theorem toRat_pad (d : Decimal) (n : Nat) : (d.pad n).toRat = d.toRat := by
  induction n generalizing d with
  | zero => rfl
  | succ n ih =>
    rw [pad]
    split
    · rename_i d' hd'
      obtain ⟨hc, hs⟩ := ofParts?_eq_some_iff.1 hd'
      rw [ih, toRat_eq, toRat_eq, hc, hs, pow_succ]
      push_cast
      field_simp
    · rfl

theorem scale_pad {n : Nat} (hs : d.scale + n ≤ 28)
    (hc : d.coefficient.natAbs * 10 ^ n < capacity) : (d.pad n).scale = d.scale + n := by
  induction n generalizing d with
  | zero => rfl
  | succ n ih =>
    have hc' : (d.coefficient * 10).natAbs * 10 ^ n < capacity := by
      rw [Int.natAbs_mul, mul_assoc]
      rwa [pow_succ, mul_comm (10 ^ n)] at hc
    have hlt : (d.coefficient * 10).natAbs < capacity :=
      lt_of_le_of_lt (Nat.le_mul_of_pos_right _ (by positivity)) hc'
    have hle : d.scale + 1 ≤ 28 := by omega
    rw [pad, ofParts?, dif_pos ⟨hlt, hle⟩]
    dsimp only
    rw [ih (by dsimp only; omega) hc']
    dsimp only
    omega

/-! ### Points -/

/-- The value of rounded points is the nearest multiple of the fourth digit. -/
theorem toRat_roundPoints (d : Decimal) :
    d.roundPoints.toRat = roundHalfAway (d.toRat * 10 ^ 4) / 10 ^ 4 := by
  rw [roundPoints, toRat_pad, toRat_roundTo]
  rfl

theorem toRat_roundPoints_of_nonneg (h : 0 ≤ d.toRat) :
    d.roundPoints.toRat = round (d.toRat * 10 ^ 4) / 10 ^ 4 := by
  rw [toRat_roundPoints, roundHalfAway_of_nonneg (by positivity)]

/-- Rounded points have four digits behind the point, unless they are too large for that. -/
theorem scale_roundPoints (h : |roundHalfAway (d.toRat * 10 ^ 4)| < capacity) :
    d.roundPoints.scale = 4 := by
  have hle : (d.roundTo 4).scale ≤ 4 := scale_roundTo_le 4 d
  have hunits : (d.roundTo 4).coefficient * 10 ^ (4 - (d.roundTo 4).scale) =
      roundHalfAway (d.toRat * 10 ^ 4) := by
    have hq := coefficient_mul_pow hle
    rw [toRat_roundTo, div_mul_cancel₀ _ (by positivity)] at hq
    exact_mod_cast hq
  have hnat : (d.roundTo 4).coefficient.natAbs * 10 ^ (4 - (d.roundTo 4).scale) < capacity := by
    rw [← hunits, Int.abs_eq_natAbs, Int.natAbs_mul, Int.natAbs_pow] at h
    exact_mod_cast h
  unfold roundPoints
  show ((d.roundTo 4).pad (4 - (d.roundTo 4).scale)).scale = 4
  rw [scale_pad (by omega) hnat]
  omega

end Decimal

end PublicationIndicator
