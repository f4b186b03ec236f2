import Mathlib.Order.Bounds.Defs
import PublicationIndicator.Proofs.Decimal.Sum

/-!
# PublicationIndicator.Proofs.Decimal.Nearest — the one form of rounded points

`NearestAway n q v` says that `v` is the number with `n` digits behind the point that is nearest to `q`,
and of two the one away from zero.  There is one at most (`NearestAway.unique`), and it follows the
number that is rounded: it is monotone, and it changes its sign with it.

`Decimal.IsPadded d` says that `d` shows four digits behind the point, or as many as fit.  Decimals in
this form are equal if they have the same value (`IsPadded.eq_of_toRat_eq`), so that rounding points,
which leads to it, does so once and for all (`roundPoints_nearest`).
-/

namespace PublicationIndicator

/-! ### The nearest number -/

/-- Of the numbers with `n` digits behind the point `v` is the one nearest to `q`, and of two that are
equally near the one away from zero. -/
structure NearestAway (n : Nat) (q v : ℚ) : Prop where
  multiple : ∃ z : ℤ, v = z / 10 ^ n
  nearest : ∀ z : ℤ, |v - q| ≤ |z / 10 ^ n - q|
  away : ∀ z : ℤ, |z / 10 ^ n - q| = |v - q| → |(z / 10 ^ n : ℚ)| ≤ |v|

namespace NearestAway

variable {n : Nat} {q q' v v' : ℚ}

/-- There is one nearest number at most. -/
theorem unique (h : NearestAway n q v) (h' : NearestAway n q v') : v = v' := by
  obtain ⟨z, hz⟩ := h.multiple
  obtain ⟨z', hz'⟩ := h'.multiple
  have hle := h.nearest z'
  have hle' := h'.nearest z
  rw [← hz] at hle'
  rw [← hz'] at hle
  have hdist : |v' - q| = |v - q| := le_antisymm hle' hle
  have habs : |v'| ≤ |v| := by
    have := h.away z'
    rw [← hz'] at this
    exact this hdist
  have habs' : |v| ≤ |v'| := by
    have := h'.away z
    rw [← hz] at this
    exact this hdist.symm
  rcases abs_eq_abs.1 (le_antisymm habs' habs) with hv | hv
  · exact hv
  · -- numbers of opposite signs are equally near to zero only, which is itself nearest to zero
    have hzero := h.nearest 0
    have hzero' := h'.nearest 0
    simp only [Int.cast_zero, zero_div, zero_sub, abs_neg] at hzero hzero'
    have hsq : (v' - q) ^ 2 = (v - q) ^ 2 := sq_eq_sq_iff_abs_eq_abs _ _ |>.2 hdist
    have hsq0 : (v - q) ^ 2 ≤ q ^ 2 := sq_le_sq.2 hzero
    have hv' : v' = 0 := by
      subst hv
      nlinarith
    rw [hv, hv', neg_zero]

/-- What has no more than `n` digits is nearest to itself. -/
theorem self (n : Nat) (z : ℤ) : NearestAway n (z / 10 ^ n) (z / 10 ^ n) := by
  refine ⟨⟨z, rfl⟩, fun y => ?_, fun y h => ?_⟩
  · rw [sub_self, abs_zero]
    exact abs_nonneg _
  · rw [sub_self, abs_zero, abs_eq_zero, sub_eq_zero] at h
    rw [h]

theorem neg (h : NearestAway n q v) : NearestAway n (-q) (-v) := by
  have hflip : ∀ z : ℤ, |(z : ℚ) / 10 ^ n - -q| = |((-z : ℤ) : ℚ) / 10 ^ n - q| := fun z => by
    rw [← abs_neg]
    congr 1
    push_cast
    ring
  have hdist : |-v - -q| = |v - q| := by rw [← neg_sub', abs_neg]
  obtain ⟨z, hz⟩ := h.multiple
  refine ⟨⟨-z, by rw [hz]; push_cast; ring⟩, fun y => ?_, fun y hy => ?_⟩
  · rw [hflip, hdist]
    exact h.nearest (-y)
  · rw [hflip, hdist] at hy
    have hle := h.away (-y) hy
    push_cast at hle
    rwa [neg_div, abs_neg, ← abs_neg v] at hle

/-- A number is not nearer to what lies below the number nearest to it: it is halfway at least. -/
theorem midpoint_le {w : ℚ} (h : NearestAway n q v) (hw : ∃ z : ℤ, w = z / 10 ^ n) (hlt : w < v) :
    w + v ≤ 2 * q := by
  obtain ⟨z, rfl⟩ := hw
  have hnear : (v - q) ^ 2 ≤ (z / 10 ^ n - q) ^ 2 := sq_le_sq.2 (h.nearest z)
  by_contra hmid
  nlinarith [mul_pos (sub_pos.2 hlt) (sub_pos.2 (not_le.1 hmid))]

/-- What is nearest to the smaller number is not the larger of the two: else both numbers would be
halfway between the two that are nearest to them, and so the same number. -/
theorem mono (h : NearestAway n q v) (h' : NearestAway n q' v') (hle : q ≤ q') : v ≤ v' := by
  by_contra hlt
  have hmid : v' + v ≤ 2 * q := h.midpoint_le h'.multiple (not_le.1 hlt)
  have hmid' : -v + -v' ≤ 2 * -q' :=
    h'.neg.midpoint_le h.neg.multiple (neg_lt_neg (not_le.1 hlt))
  have heq : q' = q := by linarith
  rw [heq] at h'
  exact hlt (h.unique h').le

end NearestAway

/-! ### Rounding half away from zero -/

theorem roundHalfAway_neg (q : ℚ) : roundHalfAway (-q) = -roundHalfAway q := by
  unfold roundHalfAway
  rcases lt_trichotomy q 0 with hq | rfl | hq
  · rw [if_pos (neg_pos.2 hq).le, if_neg (not_le.2 hq), neg_neg]
  · simp
  · rw [if_neg (not_le.2 (neg_neg_of_pos hq)), if_pos hq.le, neg_neg]

/-- A number above zero that is halfway between two whole numbers goes to the upper one. -/
theorem abs_le_round {x : ℚ} (hx : 0 ≤ x) {z : ℤ} (h : |(z : ℚ) - x| = |(round x : ℚ) - x|) :
    |(z : ℚ)| ≤ |(round x : ℚ)| := by
  have hround : 0 ≤ round x := by
    rw [round_eq]
    exact Int.floor_nonneg.2 (by positivity)
  have hlt : x + 1 / 2 < round x + 1 := by
    rw [round_eq]
    exact Int.lt_floor_add_one _
  have habs : |z| ≤ |round x| := by
    rcases abs_eq_abs.1 h with hz | hz
    · have heq : z = round x := by exact_mod_cast sub_left_inj.1 hz
      rw [heq]
    · have hupper : z < round x + 1 := by
        have : (z : ℚ) < round x + 1 := by linarith
        exact_mod_cast this
      have hlower : -round x ≤ z := by
        have : -(round x : ℚ) ≤ z := by linarith
        exact_mod_cast this
      rw [abs_of_nonneg hround, abs_le]
      exact ⟨hlower, Int.lt_add_one_iff.1 hupper⟩
  exact_mod_cast habs

theorem nearestAway_round (n : Nat) {q : ℚ} (hq : 0 ≤ q) :
    NearestAway n q (round (q * 10 ^ n) / 10 ^ n) := by
  have hpow : (0 : ℚ) < 10 ^ n := by positivity
  have hdist : ∀ z : ℤ, |(z : ℚ) / 10 ^ n - q| = |z - q * 10 ^ n| / 10 ^ n := fun z => by
    rw [← abs_of_pos hpow, ← abs_div, abs_of_pos hpow, sub_div, mul_div_cancel_right₀ _ hpow.ne']
  refine ⟨⟨_, rfl⟩, fun z => ?_, fun z hz => ?_⟩
  · rw [hdist, hdist, abs_sub_comm, abs_sub_comm (z : ℚ)]
    have := round_le (q * 10 ^ n) z
    gcongr
  · rw [hdist, hdist, div_left_inj' hpow.ne'] at hz
    rw [abs_div, abs_div, div_le_div_iff_of_pos_right (abs_pos.2 hpow.ne')]
    exact abs_le_round (by positivity) hz

theorem nearestAway_roundHalfAway (n : Nat) (q : ℚ) :
    NearestAway n q (roundHalfAway (q * 10 ^ n) / 10 ^ n) := by
  rcases le_total 0 q with hq | hq
  · rw [roundHalfAway_of_nonneg (by positivity)]
    exact nearestAway_round n hq
  · have hneg := (nearestAway_round n (neg_nonneg.2 hq)).neg
    have hpos : 0 ≤ -q * 10 ^ n := mul_nonneg (neg_nonneg.2 hq) (by positivity)
    rw [← roundHalfAway_of_nonneg hpos, neg_mul, roundHalfAway_neg, neg_neg] at hneg
    push_cast at hneg
    rwa [neg_div, neg_neg] at hneg

namespace Decimal

variable {a b d : Decimal}

/-! ### Four digits, or as many as fit -/

/-- Four digits stand behind the point; there are fewer only if one more would not fit. -/
def IsPadded (d : Decimal) : Prop :=
  d.scale = 4 ∨ d.scale < 4 ∧ capacity ≤ d.coefficient.natAbs * 10

instance (d : Decimal) : Decidable d.IsPadded :=
  inferInstanceAs (Decidable (_ ∨ _))

/-- Zeros are added until there are enough, or until the next one does not fit. -/
theorem scale_pad_or {n : Nat} (hs : d.scale + n ≤ 28) : (d.pad n).scale = d.scale + n ∨
    (d.pad n).scale < d.scale + n ∧ capacity ≤ (d.pad n).coefficient.natAbs * 10 := by
  induction n generalizing d with
  | zero => exact .inl rfl
  | succ n ih =>
    rw [pad]
    split
    · rename_i d' hd'
      obtain ⟨-, hscale⟩ := ofParts?_eq_some_iff.1 hd'
      have hrest := ih (d := d') (by omega)
      rwa [hscale, Nat.add_right_comm, Nat.add_assoc] at hrest
    · rename_i hnone
      refine .inr ⟨by omega, ?_⟩
      by_contra hlt
      have hfits : (d.coefficient * 10).natAbs < capacity := by
        rw [Int.natAbs_mul]
        exact not_le.1 hlt
      rw [ofParts?, dif_pos ⟨hfits, by omega⟩] at hnone
      cases hnone

theorem isPadded_roundPoints (d : Decimal) : d.roundPoints.IsPadded := by
  have hle : (d.roundTo 4).scale ≤ 4 := scale_roundTo_le 4 d
  have hpad := scale_pad_or (d := d.roundTo 4) (n := 4 - (d.roundTo 4).scale) (by omega)
  rwa [Nat.add_sub_cancel' hle] at hpad

theorem abs_toRat_mul_pow (d : Decimal) : |d.toRat| * 10 ^ d.scale = d.coefficient.natAbs := by
  rw [toRat_eq, abs_div, abs_of_pos (by positivity : (0 : ℚ) < 10 ^ d.scale),
    div_mul_cancel₀ _ (by positivity), Nat.cast_natAbs, Int.cast_abs]

/-- A decimal fits with the digits that it shows behind the point, and with fewer. -/
theorem abs_toRat_mul_lt {s : Nat} (h : s ≤ d.scale) : |d.toRat| * 10 ^ s < capacity := by
  have hle : |d.toRat| * 10 ^ s ≤ |d.toRat| * 10 ^ d.scale := by
    gcongr
    norm_num
  refine lt_of_le_of_lt hle ?_
  rw [abs_toRat_mul_pow]
  exact_mod_cast d.coefficient_lt

namespace IsPadded

theorem scale_le (h : d.IsPadded) : d.scale ≤ 4 := by
  rcases h with h | ⟨h, -⟩
  · exact h.le
  · exact h.le

/-- Where there are less than four digits, more of them do not fit. -/
theorem capacity_le (h : d.IsPadded) {s : Nat} (hs : s ≤ 4) (hlt : d.scale < s) :
    (capacity : ℚ) ≤ |d.toRat| * 10 ^ s := by
  have hcap : capacity ≤ d.coefficient.natAbs * 10 := by
    rcases h with h | ⟨-, h⟩
    · omega
    · exact h
  calc (capacity : ℚ) ≤ d.coefficient.natAbs * 10 := by exact_mod_cast hcap
    _ = |d.toRat| * 10 ^ (d.scale + 1) := by rw [← abs_toRat_mul_pow, mul_assoc, pow_succ]
    _ ≤ |d.toRat| * 10 ^ s := by
      gcongr
      · norm_num
      · omega

/-- No form of the number with four digits at most shows more of them. -/
theorem scale_le_of_toRat_eq (h : a.IsPadded) (hq : b.toRat = a.toRat) (hb : b.scale ≤ 4) :
    b.scale ≤ a.scale := by
  by_contra hlt
  have hcap := h.capacity_le hb (not_le.1 hlt)
  rw [← hq] at hcap
  exact absurd (abs_toRat_mul_lt le_rfl) (not_lt.2 hcap)

theorem eq_of_toRat_eq (ha : a.IsPadded) (hb : b.IsPadded) (hq : a.toRat = b.toRat) : a = b :=
  Decimal.eq_of_toRat_eq hq (le_antisymm (hb.scale_le_of_toRat_eq hq ha.scale_le)
    (ha.scale_le_of_toRat_eq hq.symm hb.scale_le))

theorem scale_eq (h : d.IsPadded) (hlt : |d.toRat| * 10 ^ 4 < capacity) : d.scale = 4 := by
  rcases h.scale_le.lt_or_eq with hscale | hscale
  · exact absurd hlt (not_lt.2 (h.capacity_le le_rfl hscale))
  · exact hscale

/-- Where four digits do not fit, there are as many as do. -/
theorem isGreatest_scale (h : d.IsPadded) (hle : (capacity : ℚ) ≤ |d.toRat| * 10 ^ 4) :
    IsGreatest {s | ∃ e : Decimal, e.scale = s ∧ e.toRat = d.toRat} d.scale := by
  refine ⟨⟨d, rfl, rfl⟩, ?_⟩
  rintro s ⟨e, rfl, he⟩
  refine h.scale_le_of_toRat_eq he ?_
  by_contra hlt
  have hfits := abs_toRat_mul_lt (not_le.1 hlt).le
  rw [he] at hfits
  exact absurd hfits (not_lt.2 hle)

end IsPadded

/-! ### Rounding points -/

/-- The same digits with the other sign. -/
instance : Neg Decimal where
  neg d := ⟨-d.coefficient, d.scale, by rw [Int.natAbs_neg]; exact d.coefficient_lt, d.scale_le⟩

theorem toRat_neg (d : Decimal) : (-d).toRat = -d.toRat := by
  rw [toRat_eq, toRat_eq, ← neg_div, ← Int.cast_neg]
  rfl

theorem nearestAway_roundPoints (d : Decimal) : NearestAway 4 d.toRat d.roundPoints.toRat := by
  rw [toRat_roundPoints]
  exact nearestAway_roundHalfAway 4 d.toRat

/-- Rounding points gives the nearest multiple of the fourth digit, of two the one away from zero,
with four digits behind the point or, if they do not fit, with as many as do.  What is rounded is not
rounded again, larger points are not rounded to less, and the sign does not matter. -/
theorem roundPoints_nearest (d : Decimal) :
    NearestAway 4 d.toRat d.roundPoints.toRat ∧
      (|d.roundPoints.toRat| * 10 ^ 4 < capacity → d.roundPoints.scale = 4) ∧
      ((capacity : ℚ) ≤ |d.roundPoints.toRat| * 10 ^ 4 →
        IsGreatest {s | ∃ e : Decimal, e.scale = s ∧ e.toRat = d.roundPoints.toRat}
          d.roundPoints.scale) ∧
      d.roundPoints.roundPoints = d.roundPoints ∧
      (∀ e : Decimal, d.toRat ≤ e.toRat → d.roundPoints.toRat ≤ e.roundPoints.toRat) ∧
      (-d).roundPoints.toRat = -d.roundPoints.toRat := by
  have hnear := nearestAway_roundPoints d
  have hpadded := isPadded_roundPoints d
  have hagain : d.roundPoints.roundPoints.toRat = d.roundPoints.toRat := by
    obtain ⟨z, hz⟩ := hnear.multiple
    have hself := nearestAway_roundPoints d.roundPoints
    rw [hz] at hself ⊢
    exact hself.unique (.self 4 z)
  refine ⟨hnear, hpadded.scale_eq, hpadded.isGreatest_scale, ?_, fun e he => ?_, ?_⟩
  · exact (isPadded_roundPoints _).eq_of_toRat_eq hpadded hagain
  · exact hnear.mono (nearestAway_roundPoints e) he
  · have hneg := nearestAway_roundPoints (-d)
    rw [toRat_neg] at hneg
    exact hneg.unique hnear.neg

-- A half goes away from zero, and the largest number takes no zeros behind its three digits.
example : (ofParts? (-123455) 5).map (fun d => (d.roundPoints.coefficient, d.roundPoints.scale)) =
      some (-12346, 4) ∧
    (ofParts? 79228162514264337593543950335 3).map (fun d => decide d.roundPoints.IsPadded) =
      some true ∧
    (ofParts? 79228162514264337593543950335 3).map (fun d => d.roundPoints.scale) = some 3 := by
  decide

end Decimal

end PublicationIndicator
