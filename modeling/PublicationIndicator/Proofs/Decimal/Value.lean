import Mathlib.Algebra.Order.Round
import Mathlib.Data.Rat.Floor
import Mathlib.Tactic.FieldSimp
import Mathlib.Tactic.Linarith
import Mathlib.Tactic.Positivity
import Mathlib.Tactic.Ring
import PublicationIndicator.Decimal.Basic

/-!
# PublicationIndicator.Proofs.Decimal.Value — arithmetic on decimals as arithmetic on numbers

`Decimal.Near s q r` says that the decimal `r` is as near to the number `q` as decimals with `s` digits
behind the point can be: within half of the last digit, equal to `q` if `q` has no more digits, and not
below zero unless `q` is.  Where `s` digits fit, every operation answers with a decimal that is near to
the exact result (`exists_add?_near`, `exists_mul?_near`, `exists_div?_near`).
-/

namespace PublicationIndicator

namespace Decimal

theorem toRat_eq (d : Decimal) : d.toRat = (d.coefficient : ℚ) / 10 ^ d.scale := by
  rw [toRat, Rat.mkRat_eq_div, Nat.pow_eq]
  push_cast
  rfl

/-! ### Rounding a quotient -/

/-- Rounding to the nearest whole number is off by a half at most. -/
theorem abs_roundHalfEven_sub_le {n d : Nat} (hd : 0 < d) :
    |(roundHalfEven n d : ℚ) - n / d| ≤ 1 / 2 := by
  have hdq : (0 : ℚ) < d := by exact_mod_cast hd
  have hn : (n : ℚ) = d * (n / d : ℕ) + (n % d : ℕ) := by exact_mod_cast (Nat.div_add_mod n d).symm
  have hq : (n : ℚ) / d = (n / d : ℕ) + (n % d : ℕ) / d := by
    rw [hn]
    field_simp
  rw [roundHalfEven, hq]
  split
  · rename_i h
    have hr : (d : ℚ) ≤ 2 * (n % d : ℕ) := by
      have : d ≤ 2 * (n % d) := by omega
      exact_mod_cast this
    have hr' : ((n % d : ℕ) : ℚ) ≤ d := by exact_mod_cast (Nat.mod_lt n hd).le
    have h1 : (1 : ℚ) / 2 ≤ (n % d : ℕ) / d := by
      rw [le_div_iff₀ hdq]
      linarith
    have h2 : ((n % d : ℕ) : ℚ) / d ≤ 1 := by
      rw [div_le_one hdq]
      exact hr'
    push_cast
    rw [abs_le]
    constructor <;> linarith
  · rename_i h
    have hr : 2 * ((n % d : ℕ) : ℚ) ≤ d := by
      have : 2 * (n % d) ≤ d := by omega
      exact_mod_cast this
    have h1 : ((n % d : ℕ) : ℚ) / d ≤ 1 / 2 := by
      rw [div_le_iff₀ hdq]
      linarith
    have h2 : (0 : ℚ) ≤ (n % d : ℕ) / d := by positivity
    rw [abs_le]
    constructor <;> linarith

theorem ofParts?_eq_some_iff {c : Int} {s : Nat} {r : Decimal} :
    ofParts? c s = some r ↔ r.coefficient = c ∧ r.scale = s := by
  unfold ofParts?
  constructor
  · intro h
    split at h
    · cases h
      exact ⟨rfl, rfl⟩
    · cases h
  · rintro ⟨rfl, rfl⟩
    rw [dif_pos ⟨r.coefficient_lt, r.scale_le⟩]

/-- The coefficient of the quotient at `s` digits is off by a half at most. -/
theorem abs_sign_mul_roundHalfEven_sub_le (n : Int) {d : Nat} (hd : 0 < d) (s : Nat) :
    |((n.sign * roundHalfEven (n.natAbs * Nat.pow 10 s) d : Int) : ℚ) - n / d * 10 ^ s| ≤ 1 / 2 := by
  have h := abs_roundHalfEven_sub_le (n := n.natAbs * Nat.pow 10 s) hd
  have hn : (n : ℚ) = n.sign * (n.natAbs : ℕ) := by
    rw [← Int.cast_natCast, ← Int.cast_mul, Int.sign_mul_natAbs]
  have hval : ((n.sign * roundHalfEven (n.natAbs * Nat.pow 10 s) d : Int) : ℚ) - n / d * 10 ^ s =
      n.sign * ((roundHalfEven (n.natAbs * Nat.pow 10 s) d : ℚ) - (n.natAbs * Nat.pow 10 s : ℕ) / d) := by
    rw [hn, Nat.pow_eq]
    push_cast
    ring
  rw [hval, abs_mul]
  rcases Int.sign_trichotomy n with hs | hs | hs
  · simpa [hs] using h
  · simp [hs]
  · simpa [hs] using h

/-- `r` is as near to `q` as decimals with `s` digits behind the point can be. -/
structure Near (s : Nat) (q : ℚ) (r : Decimal) : Prop where
  scale : s ≤ r.scale
  error : |r.toRat - q| ≤ 1 / 2 / 10 ^ s
  /-- What has no more than `s` digits is not rounded. -/
  exact : ∀ z : ℤ, q = z / 10 ^ s → r.toRat = q
  nonneg : 0 ≤ q → 0 ≤ r.toRat

/-- Two whole numbers of the last digit that are at most half a digit apart are the same. -/
theorem toRat_eq_of_abs_sub_le {t : Nat} {r : Decimal} (hscale : r.scale = t) {z : ℤ}
    (h : |r.toRat - z / 10 ^ t| ≤ 1 / 2 / 10 ^ t) : r.toRat = z / 10 ^ t := by
  have hpow : (0 : ℚ) < 10 ^ t := by positivity
  rw [toRat_eq, hscale] at h ⊢
  rw [← sub_div, abs_div, abs_of_pos hpow, div_le_div_iff_of_pos_right hpow] at h
  have hlt : |r.coefficient - z| < 1 := by
    have : (|r.coefficient - z| : ℤ) < (1 : ℚ) := by
      push_cast
      linarith
    exact_mod_cast this
  rw [sub_eq_zero.1 (Int.abs_lt_one_iff.1 hlt)]

theorem nonneg_of_nearestAt? {n : Int} {d t : Nat} {r : Decimal} (hd : 0 < d)
    (h : nearestAt? n d t = some r) (hq : 0 ≤ (n : ℚ) / d) : 0 ≤ r.toRat := by
  obtain ⟨hc, -⟩ := ofParts?_eq_some_iff.1 h
  have hn : 0 ≤ n := by
    by_contra hneg
    have hnq : (n : ℚ) < 0 := by exact_mod_cast not_le.1 hneg
    have hdq : (0 : ℚ) < d := by exact_mod_cast hd
    exact absurd hq (not_le.2 (div_neg_of_neg_of_pos hnq hdq))
  have hcoe : 0 ≤ r.coefficient := by
    rw [hc]
    exact mul_nonneg (Int.sign_nonneg_iff.2 hn) (Int.natCast_nonneg _)
  rw [toRat_eq]
  exact div_nonneg (by exact_mod_cast hcoe) (by positivity)

/-- At whatever scale it is rounded, the quotient comes near. -/
theorem near_of_nearestAt? {n : Int} {d s t : Nat} {r : Decimal} (hd : 0 < d) (hst : s ≤ t)
    (h : nearestAt? n d t = some r) : Near s ((n : ℚ) / d) r := by
  obtain ⟨hc, hscale⟩ := ofParts?_eq_some_iff.1 h
  have hpow : (0 : ℚ) < 10 ^ t := by positivity
  have herr : |r.toRat - n / d| ≤ 1 / 2 / 10 ^ t := by
    have hround := abs_sign_mul_roundHalfEven_sub_le n hd t
    rw [← hc] at hround
    have hval : r.toRat - n / d = ((r.coefficient : ℚ) - n / d * 10 ^ t) / 10 ^ t := by
      rw [toRat_eq, hscale]
      field_simp
    rw [hval, abs_div, abs_of_pos hpow]
    gcongr
  have hle : (1 : ℚ) / 2 / 10 ^ t ≤ 1 / 2 / 10 ^ s := by
    have : (10 : ℚ) ^ s ≤ 10 ^ t := pow_le_pow_right₀ (by norm_num) hst
    gcongr
  refine ⟨hscale ▸ hst, herr.trans hle, fun z hz => ?_, nonneg_of_nearestAt? hd h⟩
  have hint : (n : ℚ) / d = (z * 10 ^ (t - s) : ℤ) / 10 ^ t := by
    rw [hz]
    push_cast
    rw [div_eq_div_iff (by positivity) hpow.ne', mul_assoc, ← pow_add]
    congr 2
    omega
  rw [hint] at herr ⊢
  exact toRat_eq_of_abs_sub_le hscale herr

/-! ### The nearest decimal -/

/-- Do numbers of that size fit with `s` digits behind the point? -/
def Fits (s : Nat) (q : ℚ) : Prop := |q| * 10 ^ s + 1 / 2 < capacity

theorem isSome_nearestAt? {n : Int} {d s : Nat} (hd : 0 < d) (hs : s ≤ 28)
    (hfit : Fits s ((n : ℚ) / d)) : (nearestAt? n d s).isSome := by
  have h := abs_sign_mul_roundHalfEven_sub_le n hd s
  have hlt : |((n.sign * roundHalfEven (n.natAbs * Nat.pow 10 s) d : Int) : ℚ)| < capacity := by
    have hpow : |(10 : ℚ) ^ s| = 10 ^ s := abs_of_pos (by positivity)
    have hq : |(n : ℚ) / d * 10 ^ s| + 1 / 2 < capacity := by rwa [abs_mul, hpow]
    have htri := abs_sub_abs_le_abs_sub
      ((n.sign * roundHalfEven (n.natAbs * Nat.pow 10 s) d : Int) : ℚ) (n / d * 10 ^ s)
    linarith
  have hnat : (n.sign * roundHalfEven (n.natAbs * Nat.pow 10 s) d).natAbs < capacity := by
    have : |n.sign * roundHalfEven (n.natAbs * Nat.pow 10 s) d| < (capacity : ℤ) := by exact_mod_cast hlt
    rw [Int.abs_eq_natAbs] at this
    omega
  rw [nearestAt?, ofParts?, dif_pos ⟨hnat, hs⟩]
  rfl

/-- Where `s` digits fit, there is a decimal with as many or more of them. -/
theorem exists_nearestUpTo?_near {n : Int} {d s t : Nat} (hd : 0 < d) (hst : s ≤ t) (ht : t ≤ 28)
    (hfit : Fits s ((n : ℚ) / d)) :
    ∃ r, nearestUpTo? n d t = some r ∧ Near s ((n : ℚ) / d) r := by
  induction t with
  | zero =>
    obtain rfl : s = 0 := by omega
    obtain ⟨r, hr⟩ := Option.isSome_iff_exists.1 (isSome_nearestAt? hd ht hfit)
    exact ⟨r, hr, near_of_nearestAt? hd le_rfl hr⟩
  | succ t ih =>
    rw [nearestUpTo?]
    cases hr : nearestAt? n d (t + 1) with
    | some r => exact ⟨r, rfl, near_of_nearestAt? hd hst hr⟩
    | none =>
      have hne : s ≠ t + 1 := by
        rintro rfl
        have hsome := isSome_nearestAt? hd ht hfit
        rw [hr] at hsome
        cases hsome
      exact ih (by omega) (by omega)

theorem exists_nearest?_near {n : Int} {d s : Nat} {q : ℚ} (hd : 0 < d) (hs : s ≤ 28)
    (hq : (n : ℚ) / d = q) (hfit : Fits s q) : ∃ r, nearest? n d = some r ∧ Near s q r := by
  subst hq
  rw [nearest?, if_neg hd.ne']
  exact exists_nearestUpTo?_near hd hs le_rfl hfit

/-! ### Arithmetic -/

variable {a b : Decimal} {s : Nat}

theorem exists_add?_near (hs : s ≤ 28) (hfit : Fits s (a.toRat + b.toRat)) :
    ∃ r, a.add? b = some r ∧ Near s (a.toRat + b.toRat) r := by
  refine exists_nearest?_near (Nat.pow_pos (by decide)) hs ?_ hfit
  rw [toRat_eq, toRat_eq]
  simp only [Nat.pow_eq, pow_add]
  push_cast
  field_simp

theorem exists_mul?_near (hs : s ≤ 28) (hfit : Fits s (a.toRat * b.toRat)) :
    ∃ r, a.mul? b = some r ∧ Near s (a.toRat * b.toRat) r := by
  refine exists_nearest?_near (Nat.pow_pos (by decide)) hs ?_ hfit
  rw [toRat_eq, toRat_eq, Nat.pow_eq]
  push_cast
  rw [pow_add]
  field_simp

theorem exists_div?_near (hb : b.coefficient ≠ 0) (hs : s ≤ 28) (hfit : Fits s (a.toRat / b.toRat)) :
    ∃ r, a.div? b = some r ∧ Near s (a.toRat / b.toRat) r := by
  have habs : 0 < b.coefficient.natAbs := Int.natAbs_pos.2 hb
  refine exists_nearest?_near (Nat.mul_pos habs (Nat.pow_pos (by decide))) hs ?_ hfit
  have hbq : (b.coefficient : ℚ) ≠ 0 := by exact_mod_cast hb
  have hsign : (b.coefficient.sign : ℚ) * b.coefficient = (b.coefficient.natAbs : ℕ) := by
    rw [← Int.cast_natCast, ← Int.cast_mul, Int.sign_mul_self]
  have habsq : ((b.coefficient.natAbs : ℕ) : ℚ) ≠ 0 := by exact_mod_cast habs.ne'
  rw [toRat_eq, toRat_eq, Nat.pow_eq, Nat.pow_eq]
  push_cast
  rw [div_div_div_eq, div_eq_div_iff (by positivity) (by positivity), ← hsign]
  ring

end Decimal

end PublicationIndicator
