import Mathlib.Algebra.BigOperators.Group.List.Lemmas
import Mathlib.Algebra.Order.BigOperators.Group.List
import PublicationIndicator.Proofs.Decimal.Rounding

/-!
# PublicationIndicator.Proofs.Decimal.Sum — sums of points are exact

`Decimal.IsPoints` holds of the numbers that points are: whole numbers of the fourth digit.  As long as
they are not too large, adding them up and rounding the sum to points changes nothing
(`exists_sum?_eq`, `isPoints_roundPoints`).
-/

namespace PublicationIndicator.Decimal

/-- A whole number of the fourth digit, not below zero. -/
def IsPoints (d : Decimal) : Prop := ∃ u : ℕ, d.toRat = u / 10 ^ 4

/-- Points below this bound can be added up without being rounded. -/
def pointsBound : ℚ := 10 ^ 24

theorem IsPoints.nonneg {d : Decimal} (h : d.IsPoints) : 0 ≤ d.toRat := by
  obtain ⟨u, hu⟩ := h
  rw [hu]
  positivity

theorem isPoints_zero : zero.IsPoints := ⟨0, by rw [toRat_eq]; simp [zero, ofByte]⟩

theorem toRat_zero : zero.toRat = 0 := by
  rw [toRat_eq]
  simp [zero, ofByte]

theorem fits_of_le_pointsBound {q : ℚ} (hq : 0 ≤ q) (h : q ≤ pointsBound) : Fits 4 q := by
  unfold pointsBound at h
  have hcap : (10 : ℚ) ^ 24 * 10 ^ 4 + 1 / 2 < capacity := by
    unfold capacity
    norm_num
  rw [Fits, abs_of_nonneg hq]
  linarith

/-- The sum of two numbers of points is not rounded. -/
theorem exists_add?_eq {a b : Decimal} (ha : a.IsPoints) (hb : b.IsPoints)
    (h : a.toRat + b.toRat ≤ pointsBound) :
    ∃ r, a.add? b = some r ∧ r.IsPoints ∧ r.toRat = a.toRat + b.toRat := by
  have hnonneg : 0 ≤ a.toRat + b.toRat := add_nonneg ha.nonneg hb.nonneg
  obtain ⟨r, hr, hnear⟩ := exists_add?_near (by omega) (fits_of_le_pointsBound hnonneg h)
  obtain ⟨u, hu⟩ := ha
  obtain ⟨v, hv⟩ := hb
  have hsum : a.toRat + b.toRat = (u + v : ℕ) / 10 ^ 4 := by
    rw [hu, hv]
    push_cast
    ring
  have hexact : r.toRat = a.toRat + b.toRat := hnear.exact (u + v : ℕ) (by rw [hsum]; push_cast; rfl)
  exact ⟨r, hr, ⟨u + v, hexact.trans hsum⟩, hexact⟩

theorem sum_nonneg {ds : List Decimal} (h : ∀ d ∈ ds, d.IsPoints) : 0 ≤ (ds.map toRat).sum := by
  refine List.sum_nonneg fun q hq => ?_
  obtain ⟨d, hd, rfl⟩ := List.mem_map.1 hq
  exact (h d hd).nonneg

/-- Adding on to what has been added up already. -/
theorem exists_foldlM_add?_eq {ds : List Decimal} (h : ∀ d ∈ ds, d.IsPoints) {a : Decimal}
    (ha : a.IsPoints) (hle : a.toRat + (ds.map toRat).sum ≤ pointsBound) :
    ∃ r, ds.foldlM add? a = some r ∧ r.IsPoints ∧ r.toRat = a.toRat + (ds.map toRat).sum := by
  induction ds generalizing a with
  | nil => exact ⟨a, rfl, ha, by simp⟩
  | cons d ds ih =>
    obtain ⟨hd, hds⟩ := List.forall_mem_cons.1 h
    rw [List.map_cons, List.sum_cons, ← add_assoc] at hle ⊢
    have hrest := sum_nonneg hds
    obtain ⟨s, hs, hspoints, hsum⟩ := exists_add?_eq ha hd (by linarith)
    obtain ⟨r, hr, hrpoints, hrsum⟩ := ih hds hspoints (by rw [hsum]; exact hle)
    refine ⟨r, ?_, hrpoints, by rw [hrsum, hsum]⟩
    rw [List.foldlM_cons, hs]
    exact hr

theorem exists_sum?_eq {ds : List Decimal} (h : ∀ d ∈ ds, d.IsPoints)
    (hle : (ds.map toRat).sum ≤ pointsBound) :
    ∃ r, sum? ds = some r ∧ r.IsPoints ∧ r.toRat = (ds.map toRat).sum := by
  have hle' : zero.toRat + (ds.map toRat).sum ≤ pointsBound := by rwa [toRat_zero, zero_add]
  obtain ⟨r, hr, hpoints, hsum⟩ := exists_foldlM_add?_eq h isPoints_zero hle'
  exact ⟨r, hr, hpoints, by rw [hsum, toRat_zero, zero_add]⟩

/-! ### Rounding -/

/-- What is not below zero is rounded to points. -/
theorem isPoints_of_toRat_eq_round {d : Decimal} {q : ℚ} (hq : 0 ≤ q)
    (hd : d.toRat = round (q * 10 ^ 4) / 10 ^ 4) : d.IsPoints := by
  have hround : 0 ≤ round (q * 10 ^ 4) := by
    rw [round_eq]
    exact Int.floor_nonneg.2 (by positivity)
  obtain ⟨u, hu⟩ := Int.eq_ofNat_of_zero_le hround
  refine ⟨u, ?_⟩
  rw [hd, hu]
  push_cast
  rfl

theorem isPoints_roundPoints {d : Decimal} (h : 0 ≤ d.toRat) : d.roundPoints.IsPoints :=
  isPoints_of_toRat_eq_round h (toRat_roundPoints_of_nonneg h)

/-- Points are not rounded, they get four digits. -/
theorem roundPoints_of_isPoints {d : Decimal} (h : d.IsPoints) (hle : d.toRat ≤ pointsBound) :
    d.roundPoints.toRat = d.toRat ∧ d.roundPoints.scale = 4 := by
  have hnonneg := h.nonneg
  obtain ⟨u, hu⟩ := h
  have hunits : d.toRat * 10 ^ 4 = (u : ℤ) := by
    rw [hu]
    push_cast
    field_simp
  constructor
  · rw [toRat_roundPoints, hunits, roundHalfAway_intCast, ← hunits]
    field_simp
  · refine scale_roundPoints ?_
    have hlt : ((u : ℤ) : ℚ) < capacity := by
      rw [← hunits]
      unfold pointsBound at hle
      unfold capacity
      norm_num
      linarith
    rw [hunits, roundHalfAway_intCast, abs_of_nonneg (Int.natCast_nonneg u)]
    exact_mod_cast hlt

/-- A decimal is the number that it stands for with the digits that it shows. -/
theorem eq_of_toRat_eq {a b : Decimal} (hq : a.toRat = b.toRat) (hs : a.scale = b.scale) : a = b := by
  refine ext ?_ hs
  rw [toRat_eq, toRat_eq, hs, div_left_inj' (by positivity)] at hq
  exact_mod_cast hq

theorem roundPoints_congr {a b : Decimal} (ha : a.IsPoints) (hb : b.IsPoints)
    (hle : a.toRat ≤ pointsBound) (hq : a.toRat = b.toRat) : a.roundPoints = b.roundPoints := by
  obtain ⟨hvalue, hscale⟩ := roundPoints_of_isPoints ha hle
  obtain ⟨hvalue', hscale'⟩ := roundPoints_of_isPoints hb (hq.symm.trans_le hle)
  exact eq_of_toRat_eq (by rw [hvalue, hvalue', hq]) (hscale.trans hscale'.symm)

theorem toRat_roundPoints_le {d : Decimal} {n : ℕ} (h : 0 ≤ d.toRat) (hle : d.toRat ≤ n) :
    d.roundPoints.toRat ≤ n := by
  have hround : round (d.toRat * 10 ^ 4) ≤ (n * 10 ^ 4 : ℕ) := by
    rw [round_eq, ← Int.lt_add_one_iff, Int.floor_lt]
    push_cast
    linarith
  have hroundq : (round (d.toRat * 10 ^ 4) : ℚ) ≤ (n * 10 ^ 4 : ℕ) := by exact_mod_cast hround
  rw [toRat_roundPoints_of_nonneg h, div_le_iff₀ (by positivity)]
  push_cast at hroundq
  exact hroundq

/-! ### Comparing -/

theorem beq_iff_toRat_eq {a b : Decimal} : (a == b) = true ↔ a.toRat = b.toRat := by
  rw [beq_iff, toRat_eq, toRat_eq, div_eq_div_iff (by positivity) (by positivity), Nat.pow_eq, Nat.pow_eq]
  push_cast
  exact_mod_cast Iff.rfl

theorem coefficient_pos_iff {d : Decimal} : 0 < d.coefficient ↔ 0 < d.toRat := by
  rw [toRat_eq, div_pos_iff_of_pos_right (by positivity)]
  exact_mod_cast Iff.rfl

theorem not_isNegative_iff {d : Decimal} : d.isNegative = false ↔ 0 ≤ d.toRat := by
  rw [isNegative, decide_eq_false_iff_not, not_lt, toRat_eq, le_div_iff₀ (by positivity), zero_mul]
  exact_mod_cast Iff.rfl

theorem isZero_iff {d : Decimal} : d.isZero = true ↔ d.toRat = 0 := by
  rw [isZero, beq_iff_eq, toRat_eq, div_eq_zero_iff, or_iff_left (by positivity)]
  exact_mod_cast Iff.rfl

end PublicationIndicator.Decimal
