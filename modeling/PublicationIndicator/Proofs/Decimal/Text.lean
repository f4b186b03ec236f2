import PublicationIndicator.Decimal.Text
import PublicationIndicator.Proofs.Text.Digits

/-!
# PublicationIndicator.Proofs.Decimal.Text — decimals are read back as they were written

A decimal is written with all its digits, so that the same form of it is read again (`ofText?_text`):
no digit is lost to rounding, and the point stands where it stood.
-/

namespace PublicationIndicator.Decimal

open Text

variable {ds rest : List Char} {n scale : Nat}

/-! ### Runs of digits -/

/-- The number that is read when a run of digits follows digits that were read. -/
def extend (n : Nat) (ds : List Char) : Nat := ds.foldl (fun n c => n * 10 + digitValue c) n

theorem le_extend (n : Nat) (ds : List Char) : n ≤ extend n ds := by
  induction ds generalizing n with
  | nil => exact Nat.le_refl n
  | cons c ds ih =>
    have h := ih (n * 10 + digitValue c)
    change n ≤ extend (n * 10 + digitValue c) ds
    omega

theorem extend_zero (ds : List Char) : extend 0 ds = digitsValue ds := by
  rw [extend, digitsValue]
  congr 1
  funext n c
  rw [Nat.mul_comm]

theorem extend_append (n : Nat) (ds ds' : List Char) :
    extend n (ds ++ ds') = extend (extend n ds) ds' := List.foldl_append

/-- A digit that fits is read as part of the number. -/
theorem scan?_digit {c : Char} {point seen : Bool} (hc : isDigit c = true) (hscale : scale < 28)
    (hfits : n * 10 + digitValue c < capacity) : scan? n scale point seen (c :: rest) =
      scan? (n * 10 + digitValue c) (if point then scale + 1 else scale) point true rest := by
  have hunderscore : c ≠ '_' := by
    rintro rfl
    cases hc
  have hpoint : c ≠ '.' := by
    rintro rfl
    cases hc
  have hle : ¬ 28 ≤ scale := by omega
  simp [scan?, hle, hunderscore, hpoint, hc, hfits]

/-- Digits before the point. -/
theorem scan?_whole {seen : Bool} (hds : ∀ c ∈ ds, isDigit c = true) (hne : ds ≠ [])
    (hfits : extend n ds < capacity) :
    scan? n 0 false seen (ds ++ rest) = scan? (extend n ds) 0 false true rest := by
  induction ds generalizing n seen with
  | nil => exact absurd rfl hne
  | cons c ds ih =>
    obtain ⟨hc, hds⟩ := List.forall_mem_cons.1 hds
    have hstep : extend n (c :: ds) = extend (n * 10 + digitValue c) ds := rfl
    rw [hstep] at hfits ⊢
    rw [List.cons_append, scan?_digit hc (by omega) (Nat.lt_of_le_of_lt (le_extend _ ds) hfits)]
    cases ds with
    | nil => rfl
    | cons d ds => exact ih hds (by simp) hfits

/-- Digits behind the point, of which each counts for the scale. -/
theorem scan?_fraction (hds : ∀ c ∈ ds, isDigit c = true) (hscale : scale + ds.length ≤ 28)
    (hfits : extend n ds < capacity) :
    scan? n scale true true ds = some (extend n ds, scale + ds.length) := by
  induction ds generalizing n scale with
  | nil => rfl
  | cons c ds ih =>
    obtain ⟨hc, hds⟩ := List.forall_mem_cons.1 hds
    rw [List.length_cons] at hscale ⊢
    have hstep : extend n (c :: ds) = extend (n * 10 + digitValue c) ds := rfl
    rw [hstep] at hfits ⊢
    rw [scan?_digit hc (by omega) (Nat.lt_of_le_of_lt (le_extend _ ds) hfits), if_pos rfl,
      ih hds (by omega) hfits]
    congr 2
    omega

/-- A decimal in digits is read as those digits and that scale. -/
theorem scan?_positional (hn : n < capacity) (hscale : scale ≤ 28) :
    scan? 0 0 false false (positional n scale) = some (n, scale) := by
  have hlength := le_length_padded (scale + 1) n
  have hvalue : extend 0 (padded (scale + 1) n) = n := by rw [extend_zero, digitsValue_padded]
  have hdigits : ∀ c ∈ padded (scale + 1) n, isDigit c = true := fun c hc => isDigit_of_mem_padded hc
  unfold positional
  generalize padded (scale + 1) n = digits at hlength hvalue hdigits ⊢
  -- the digits before the point and those behind it
  obtain ⟨whole, fraction, rfl, hfraction⟩ :
      ∃ whole fraction, digits = whole ++ fraction ∧ fraction.length = scale :=
    ⟨_, _, (List.take_append_drop (digits.length - scale) digits).symm, by rw [List.length_drop]; omega⟩
  have hcut : (whole ++ fraction).length - scale = whole.length := by
    rw [List.length_append]
    omega
  have hwhole : whole ≠ [] := by
    rintro rfl
    rw [List.nil_append] at hlength
    omega
  have hwholeDigits : ∀ c ∈ whole, isDigit c = true := fun c hc => hdigits c (List.mem_append_left _ hc)
  rw [extend_append] at hvalue
  have hfits : extend 0 whole < capacity := by
    have hle := le_extend (extend 0 whole) fraction
    omega
  simp only [hcut, List.take_left, List.drop_left]
  rw [scan?_whole hwholeDigits hwhole hfits]
  by_cases hzero : scale = 0
  · have hnil : fraction = [] := List.eq_nil_of_length_eq_zero (hfraction.trans hzero)
    rw [hnil] at hvalue
    simp [hzero, scan?, ← hvalue, extend]
  · have hpoint : scan? (extend 0 whole) 0 false true ('.' :: fraction) =
        scan? (extend 0 whole) 0 true true fraction := by
      simp [scan?]
    rw [if_neg hzero, hpoint, scan?_fraction (fun c hc => hdigits c (List.mem_append_right _ hc))
      (by omega) (by omega), hvalue, hfraction, Nat.zero_add]

/-- The digits of a decimal start with a digit. -/
theorem exists_positional (n scale : Nat) :
    ∃ c rest, positional n scale = c :: rest ∧ isDigit c = true := by
  have hlength := le_length_padded (scale + 1) n
  obtain ⟨c, rest, hcons, hc⟩ := exists_padded (scale + 1) n
  unfold positional
  rw [hcons] at hlength ⊢
  obtain ⟨k, hk⟩ : ∃ k, (c :: rest).length - scale = k + 1 := ⟨_, (Nat.sub_add_cancel (by omega)).symm⟩
  simp only [hk, List.take_succ_cons, List.cons_append]
  exact ⟨c, _, rfl, hc⟩

/-- The text of a decimal is read as the decimal, in the same form. -/
theorem ofText?_text (d : Decimal) : ofText? d.text = some d := by
  obtain ⟨coefficient, scale, hlt, hscale⟩ := d
  have hscan := scan?_positional hlt hscale
  obtain ⟨c, rest, hcons, hc⟩ := exists_positional coefficient.natAbs scale
  rw [hcons] at hscan
  have hparts : ∀ n : Int, n = coefficient → ofParts? n scale = some ⟨coefficient, scale, hlt, hscale⟩ := by
    rintro n rfl
    rw [ofParts?, dif_pos ⟨hlt, hscale⟩]
  rw [ofText?, text, String.toList_ofList, hcons]
  by_cases hnegative : coefficient < 0
  · simp only [hnegative, if_true, List.cons_append, List.nil_append, hscan, Option.bind_some]
    exact hparts _ (by omega)
  · have hminus : c ≠ '-' := by
      rintro rfl
      cases hc
    have hplus : c ≠ '+' := by
      rintro rfl
      cases hc
    simp only [hnegative, if_false, List.nil_append]
    split
    · rename_i heq
      exact absurd (List.cons.inj heq).1 hminus
    · rename_i heq
      exact absurd (List.cons.inj heq).1 hplus
    · rw [hscan, Option.bind_some]
      exact hparts _ (by omega)

end PublicationIndicator.Decimal
