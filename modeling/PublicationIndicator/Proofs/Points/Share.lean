import PublicationIndicator.Points.Scoring
import PublicationIndicator.Proofs.Decimal.Rounding

/-!
# PublicationIndicator.Proofs.Points.Share — three divisions round like one

An affiliation's share is divided off in three steps, each of which rounds to a decimal, and is then
rounded to points.  The result is that of dividing at once and rounding once (`toRat_roundPoints_share`):

* the three steps together are off by less than `2 / 10 ^ 27`;
* an exact share is a whole number of two-hundredths divided by the number of parts, so one that is no
  multiple of a half of the last digit keeps a larger distance from all such multiples (`gap_of_ne`);
* one that is such a multiple has few digits, and so have the steps that lead to it: they are exact.
-/

namespace PublicationIndicator

open Decimal

/-! ### Distances from whole numbers -/

/-- A fraction that is no whole number keeps a distance of `1 / N` from all of them. -/
theorem gap_of_ne {N : ℕ} (hN : 0 < N) {a t : ℤ} (hne : (t : ℚ) ≠ a / N) :
    (t : ℚ) + 1 / N ≤ a / N ∨ (a : ℚ) / N + 1 / N ≤ t := by
  have hNq : (0 : ℚ) < N := by exact_mod_cast hN
  have hz : t * N ≠ a := by
    intro h
    apply hne
    rw [eq_div_iff hNq.ne']
    exact_mod_cast h
  rcases lt_or_gt_of_ne hz with h | h
  · left
    have h1 : (t : ℚ) * N + 1 ≤ a := by exact_mod_cast h
    rw [le_div_iff₀ hNq, add_mul, div_mul_cancel₀ _ hNq.ne']
    exact h1
  · right
    have h1 : (a : ℚ) + 1 ≤ t * N := by exact_mod_cast h
    rw [← add_div, div_le_iff₀ hNq]
    exact h1

section

variable {b N : ℕ} {q r : ℚ} (hN : 0 < N) (hb : b ≤ 1040) (hq : q = b / 100 / N) (hr : 0 ≤ r)
  (herr : |r - q| ≤ 2 / 10 ^ 27)
include hN hb hq hr herr

/-- No whole number of half last digits lies between a share and what is near to it. -/
theorem le_iff_of_near {t : ℤ} (hne : (t : ℚ) ≠ q * 20000) :
    (t : ℚ) ≤ r * 20000 ↔ (t : ℚ) ≤ q * 20000 := by
  obtain ⟨hlo, hhi⟩ := abs_le.1 herr
  have hNq : (0 : ℚ) < N := by exact_mod_cast hN
  have hq' : q * 20000 = ((200 * b : ℕ) : ℤ) / N := by
    rw [hq]
    push_cast
    ring
  rcases le_or_gt N (10 ^ 20) with hsmall | hbig
  · have hgap : (1 : ℚ) / 10 ^ 20 ≤ 1 / N := by
      gcongr
      exact_mod_cast hsmall
    have herr' : (2 : ℚ) / 10 ^ 27 * 20000 < 1 / 10 ^ 20 := by norm_num
    rw [hq'] at hne
    rcases gap_of_ne hN hne with h | h
    · rw [← hq'] at h
      constructor <;> intro _ <;> linarith
    · rw [← hq'] at h
      constructor <;> intro _ <;> linarith
  · -- so many parts make shares far below the last digit
    have hbig' : (10 : ℚ) ^ 20 < N := by exact_mod_cast hbig
    have hbq : (b : ℚ) ≤ 1040 := by exact_mod_cast hb
    have hlt : q * 20000 < 1 / 2 := by
      rw [hq', div_lt_iff₀ hNq]
      push_cast
      linarith
    have hnonneg : 0 ≤ q := by
      rw [hq]
      positivity
    have herr' : (2 : ℚ) / 10 ^ 27 * 20000 < 1 / 2 := by norm_num
    rcases le_or_gt t 0 with ht | ht
    · have ht' : (t : ℚ) ≤ 0 := by exact_mod_cast ht
      constructor <;> intro _ <;> linarith
    · have ht' : (1 : ℚ) ≤ t := by exact_mod_cast ht
      constructor <;> intro _ <;> linarith

/-- What is near to a share, and equal to it if it is a whole number of half last digits, is rounded
to the same points. -/
theorem round_eq_of_near (hexact : ∀ z : ℤ, q * 20000 = z → r = q) :
    round (r * 10 ^ 4) = round (q * 10 ^ 4) := by
  by_cases hint : ∃ z : ℤ, q * 20000 = z
  · obtain ⟨z, hz⟩ := hint
    rw [hexact z hz]
  rw [round_eq, round_eq]
  refine eq_of_forall_le_iff fun z => ?_
  have h := le_iff_of_near hN hb hq hr herr (t := 2 * z - 1) fun h => hint ⟨_, h.symm⟩
  push_cast at h
  rw [Int.le_floor, Int.le_floor]
  constructor
  · intro hz
    linarith [h.1 (by linarith)]
  · intro hz
    linarith [h.2 (by linarith)]

end

/-! ### Equal parts -/

theorem toRat_of_ofInt? {z : Int} {d : Decimal} (h : ofInt? z = some d) :
    d.toRat = z ∧ d.coefficient = z := by
  obtain ⟨hc, hs⟩ := ofParts?_eq_some_iff.1 h
  rw [toRat_eq, hc, hs]
  simp

theorem fits_of_abs_le {s : Nat} (hs : s ≤ 27) {q : ℚ} (h : |q| ≤ 12) : Fits s q := by
  have hpow : (10 : ℚ) ^ s ≤ 10 ^ 27 := pow_le_pow_right₀ (by norm_num) hs
  have hmul : |q| * 10 ^ s ≤ 12 * 10 ^ 27 := by gcongr
  have hcap : (12 : ℚ) * 10 ^ 27 + 1 / 2 < capacity := by
    unfold capacity
    norm_num
  unfold Fits
  linarith

theorem abs_div_le {q : ℚ} {n : Nat} (hn : 0 < n) : |q / n| ≤ |q| := by
  have h1 : (1 : ℚ) ≤ n := by exact_mod_cast hn
  rw [abs_div, Nat.abs_cast]
  exact div_le_self (abs_nonneg q) h1

/-- One of `n` equal parts of a number that is not large, as near as decimals come to it. -/
theorem exists_part?_near {d : Decimal} {n : Nat} (hn : 0 < count32 n) (hd : |d.toRat| ≤ 12) :
    ∃ r, part? d n = some r ∧ Near 27 (d.toRat / count32 n) r := by
  have hcap : count32 n < capacity := by
    have hlt : count32 n < 2 ^ 32 := Nat.mod_lt _ (by omega)
    unfold capacity
    omega
  have hofInt : ∃ m, ofInt? (count32 n : Int) = some m := by
    rw [ofInt?, ofParts?, dif_pos ⟨by simpa using hcap, by omega⟩]
    exact ⟨_, rfl⟩
  obtain ⟨m, hm⟩ := hofInt
  obtain ⟨hmq, hmc⟩ := toRat_of_ofInt? hm
  have hmne : m.coefficient ≠ 0 := by
    rw [hmc]
    exact_mod_cast hn.ne'
  have hmn : m.toRat = count32 n := by
    rw [hmq]
    push_cast
    rfl
  have hfit : Fits 27 (d.toRat / m.toRat) := by
    rw [hmn]
    exact fits_of_abs_le le_rfl ((abs_div_le hn).trans hd)
  obtain ⟨r, hr, hnear⟩ := exists_div?_near (a := d) hmne (by omega) hfit
  rw [hmn] at hnear
  exact ⟨r, by rw [part?, hm]; exact hr, hnear⟩

/-- There are no parts where the count is nothing. -/
theorem part?_eq_none {n : Nat} (hn : count32 n = 0) (d : Decimal) : part? d n = none := by
  rw [part?, Option.bind_eq_none_iff]
  intro m hm
  obtain ⟨hc, -⟩ := ofParts?_eq_some_iff.1 hm
  rw [div?, nearest?, hc, hn]
  simp

theorem part?_near {d r : Decimal} {n : Nat} (hd : |d.toRat| ≤ 12) (h : part? d n = some r) :
    0 < count32 n ∧ Near 27 (d.toRat / count32 n) r := by
  have hn : 0 < count32 n := by
    refine Nat.pos_of_ne_zero fun hn => ?_
    rw [part?_eq_none hn] at h
    cases h
  obtain ⟨r', hr', hnear⟩ := exists_part?_near hn hd
  rw [h] at hr'
  cases hr'
  exact ⟨hn, hnear⟩

/-! ### Three divisions -/

/-- Whole numbers of half last digits are not rounded. -/
theorem near_exact {q : ℚ} {r : Decimal} (h : Near 27 q r) {z : ℤ} (hz : q * 20000 = z) :
    r.toRat = q := by
  refine h.exact (z * (5 * 10 ^ 22)) ?_
  push_cast
  rw [← hz]
  ring

theorem abs_le_of_near {q c : ℚ} {r : Decimal} (h : Near 27 q r) (hq : |q| ≤ c) :
    |r.toRat| ≤ c + 1 / 2 := by
  have herr : |r.toRat - q| ≤ 1 / 2 := h.error.trans (by norm_num)
  have htri := abs_sub_abs_le_abs_sub r.toRat q
  linarith

section

variable {pool share part points : Decimal} {n k m : ℕ} (hn : 0 < n) (hk : 0 < k) (hm : 0 < m)
  (hshare : Near 27 (pool.toRat / n) share) (hpart : Near 27 (share.toRat / k) part)
  (hpoints : Near 27 (part.toRat / m) points)
include hn hk hm hshare hpart hpoints

/-- Three steps together are off by less than two units of the 27th digit. -/
theorem abs_share_sub_le : |points.toRat - pool.toRat / (n * k * m : ℕ)| ≤ 2 / 10 ^ 27 := by
  have hnq : (n : ℚ) ≠ 0 := by exact_mod_cast hn.ne'
  have hkq : (k : ℚ) ≠ 0 := by exact_mod_cast hk.ne'
  have hmq : (m : ℚ) ≠ 0 := by exact_mod_cast hm.ne'
  have hsplit : points.toRat - pool.toRat / (n * k * m : ℕ) = (points.toRat - part.toRat / m) +
      ((part.toRat - share.toRat / k) / m + (share.toRat - pool.toRat / n) / k / m) := by
    push_cast
    field_simp
    ring
  have e1 : |(share.toRat - pool.toRat / n) / k / m| ≤ 1 / 2 / 10 ^ 27 :=
    (abs_div_le hm).trans ((abs_div_le hk).trans hshare.error)
  have e2 : |(part.toRat - share.toRat / k) / m| ≤ 1 / 2 / 10 ^ 27 :=
    (abs_div_le hm).trans hpart.error
  calc |points.toRat - pool.toRat / (n * k * m : ℕ)|
      ≤ |points.toRat - part.toRat / m| + (|(part.toRat - share.toRat / k) / m| +
          |(share.toRat - pool.toRat / n) / k / m|) := by
        rw [hsplit]
        exact (abs_add_le _ _).trans (by gcongr; exact abs_add_le _ _)
    _ ≤ 1 / 2 / 10 ^ 27 + (1 / 2 / 10 ^ 27 + 1 / 2 / 10 ^ 27) := by
        gcongr
        exact hpoints.error
    _ ≤ 2 / 10 ^ 27 := by norm_num

/-- Where the exact share is a whole number of half last digits, so is what each step divides off. -/
theorem share_exact {z : ℤ} (hz : pool.toRat / (n * k * m : ℕ) * 20000 = z) :
    points.toRat = pool.toRat / (n * k * m : ℕ) := by
  have hnq : (n : ℚ) ≠ 0 := by exact_mod_cast hn.ne'
  have hkq : (k : ℚ) ≠ 0 := by exact_mod_cast hk.ne'
  have hmq : (m : ℚ) ≠ 0 := by exact_mod_cast hm.ne'
  have e1 : share.toRat = pool.toRat / n := by
    refine near_exact hshare (z := z * k * m) ?_
    push_cast at hz ⊢
    rw [← hz]
    field_simp
  have e2 : part.toRat = share.toRat / k := by
    refine near_exact hpart (z := z * m) ?_
    push_cast at hz ⊢
    rw [e1, ← hz]
    field_simp
  have e3 : points.toRat = part.toRat / m := by
    refine near_exact hpoints (z := z) ?_
    push_cast at hz
    rw [e2, e1, ← hz]
    field_simp
  push_cast
  rw [e3, e2, e1]
  field_simp

end

/-- Dividing in three steps and rounding then is dividing at once and rounding once. -/
theorem toRat_roundPoints_share {pool share part points : Decimal} {b n k m : ℕ}
    (hpool : pool.toRat = b / 100) (hb : b ≤ 1040) (hshare : part? pool n = some share)
    (hpart : part? share k = some part) (hpoints : part? part m = some points) :
    0 < count32 n * count32 k * count32 m ∧ points.roundPoints.toRat =
      round (pool.toRat / (count32 n * count32 k * count32 m : ℕ) * 10 ^ 4) / 10 ^ 4 := by
  have hbq : (b : ℚ) ≤ 1040 := by exact_mod_cast hb
  have habs : |pool.toRat| ≤ 104 / 10 := by
    rw [hpool, abs_of_nonneg (by positivity)]
    linarith
  -- each of the three steps comes near to the exact part of what it divides
  obtain ⟨hn, h1⟩ := part?_near (habs.trans (by norm_num)) hshare
  have habs1 := abs_le_of_near h1 ((abs_div_le hn).trans habs)
  obtain ⟨hk, h2⟩ := part?_near (habs1.trans (by norm_num)) hpart
  have habs2 := abs_le_of_near h2 ((abs_div_le hk).trans habs1)
  obtain ⟨hm, h3⟩ := part?_near (habs2.trans (by norm_num)) hpoints
  have hN : 0 < count32 n * count32 k * count32 m := by positivity
  have hnonneg : 0 ≤ points.toRat := by
    have h0 : 0 ≤ pool.toRat := by
      rw [hpool]
      positivity
    have h1' := h1.nonneg (by positivity)
    have h2' := h2.nonneg (by positivity)
    exact h3.nonneg (by positivity)
  refine ⟨hN, ?_⟩
  rw [toRat_roundPoints_of_nonneg hnonneg,
    round_eq_of_near hN hb (by rw [hpool]) hnonneg (abs_share_sub_le hn hk hm h1 h2 h3)
      fun _ hz => share_exact hn hk hm h1 h2 h3 hz]

end PublicationIndicator
