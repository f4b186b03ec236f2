import PublicationIndicator.Instant.Text
import PublicationIndicator.Proofs.Text.Digits

/-!
# PublicationIndicator.Proofs.Instant.Text — instants are read back as they were written

Each part of an instant is written with a fixed number of digits, a year of four digits without a sign,
and the fraction of a second without anything lost; so the text of an instant in the years 0 to 9999 is
read as the instant (`ofText?_text`).
-/

namespace PublicationIndicator.Instant

open Text

variable {cs : List Char} {n width : Nat}

/-! ### Parts -/

theorem not_isBlankChar_of_isDigit {c : Char} (h : isDigit c = true) : isBlankChar c = false := by
  have hblanks : ∀ b ∈ blanks, isDigit b = false := by simp [blanks, isDigit]
  cases hc : isBlankChar c with
  | false => rfl
  | true =>
    rw [hblanks c (List.contains_iff_mem.1 hc)] at h
    cases h

theorem trimStart_padded (width n : Nat) (cs : List Char) :
    trimStart (padded width n ++ cs) = padded width n ++ cs := by
  obtain ⟨c, rest, hcons, hc⟩ := exists_padded width n
  rw [hcons, List.cons_append, trimStart, List.dropWhile_cons, not_isBlankChar_of_isDigit hc]
  rfl

/-- A number with a fixed number of digits is read, whatever stands behind it. -/
theorem readDigits?_padded (hw : 0 < width) (hn : n < 10 ^ width) (cs : List Char) :
    readDigits? width (padded width n ++ cs) = some (n, cs) := by
  have hlength := length_padded hw hn
  have htake : (padded width n ++ cs).take width = padded width n := by
    rw [List.take_append_of_le_length (Nat.le_of_eq hlength.symm),
      List.take_of_length_le (Nat.le_of_eq hlength)]
  have hrun : (padded width n).takeWhile isDigit = padded width n := by
    have h : (padded width n ++ []).takeWhile isDigit = padded width n :=
      takeWhile_isDigit_append (fun c hc => isDigit_of_mem_padded hc) startsOtherwise_nil
    rwa [List.append_nil] at h
  simp only [readDigits?, trimStart_padded, htake, hrun, padded_ne_nil, if_false, digitsValue_padded,
    List.drop_left]

/-- A mark is read. -/
theorem readMark?_cons {mark : Char} (h : isBlankChar mark = false) (cs : List Char) :
    readMark? mark (mark :: cs) = some cs := by
  rw [readMark?, trimStart, List.dropWhile_cons, h]
  simp

theorem readYear?_yearText {year : Int} (h : 0 ≤ year ∧ year ≤ 9999) (cs : List Char) :
    readYear? (yearText year ++ cs) = some (year, cs) := by
  have hn : year.toNat < 10 ^ 4 := by omega
  have hread := readDigits?_padded (by omega) hn cs
  obtain ⟨c, rest, hcons, hc⟩ := exists_padded 4 year.toNat
  have hvalue : ((year.toNat : Nat) : Int) = year := Int.toNat_of_nonneg h.1
  rw [yearText, if_pos h]
  simp only [readYear?, trimStart_padded]
  rw [hcons, List.cons_append] at hread ⊢
  split
  · rename_i heq
    cases (List.cons.inj heq).1
    cases hc
  · rename_i heq
    cases (List.cons.inj heq).1
    cases hc
  · rw [hread, Option.map_some, hvalue]

/-! ### The fraction of a second -/

/-- A fraction in so many digits is read as so many units of it. -/
theorem readFraction?_padded {unit : Nat} {nano : Fin 1000000000} (hw : 0 < width) (hle : width ≤ 9)
    (hn : n < 10 ^ width) (hunit : unit = 10 ^ (9 - width)) (hnano : nano.val = unit * n) :
    readFraction? ('.' :: padded width n ++ ['Z']) = some (nano, ['Z']) := by
  have hlength := length_padded hw hn
  have hrun : (padded width n ++ ['Z']).takeWhile isDigit = padded width n :=
    takeWhile_isDigit_append (fun c hc => isDigit_of_mem_padded hc) (startsOtherwise_cons rfl)
  have hnine : (padded width n ++ List.replicate 9 '0').take 9 =
      padded width n ++ List.replicate (9 - width) '0' := by
    rw [List.take_append, hlength, List.take_of_length_le (by omega), List.take_replicate,
      Nat.min_eq_left (Nat.sub_le 9 width)]
  have hvalue : Fin.ofNat 1000000000 (10 ^ (9 - width) * n) = nano := by
    rw [← hunit, ← hnano]
    exact Fin.ofNat_val_eq_self nano
  simp only [readFraction?, List.cons_append, hrun, padded_ne_nil, if_false, hnine,
    digitsValue_append_replicate, digitsValue_padded, hvalue, List.drop_left]

theorem readFraction?_fractionText (nano : Fin 1000000000) :
    readFraction? (fractionText nano.val ++ ['Z']) = some (nano, ['Z']) := by
  have hlt := nano.isLt
  unfold fractionText
  split
  · rename_i hzero
    have h : nano = 0 := Fin.ext hzero
    rw [h]
    rfl
  · split
    · exact readFraction?_padded (by omega) (by omega) (by omega) rfl (by omega)
    · split
      · exact readFraction?_padded (by omega) (by omega) (by omega) rfl (by omega)
      · exact readFraction?_padded (by omega) (by omega) (by omega) rfl (by omega)

/-! ### The whole text -/

theorem readDate?_text (date : Date) (h : 0 ≤ date.year ∧ date.year ≤ 9999) (cs : List Char) :
    readDate? (yearText date.year ++ '-' :: (padded 2 date.month ++ '-' :: (padded 2 date.day ++ cs))) =
      some (date, cs) := by
  obtain ⟨year, month, day, hmonth, hday⟩ := date
  change 0 ≤ year ∧ year ≤ 9999 at h
  have hdays : daysInMonth year month ≤ 31 := by
    rw [daysInMonth]
    repeat' split
    all_goals omega
  have hrange : yearRange year = true := by
    simp only [yearRange, decide_eq_true_eq]
    omega
  have hdate : Date.of? year month day = some ⟨year, month, day, hmonth, hday⟩ := dif_pos ⟨hmonth, hday⟩
  have hdash : ∀ cs, readMark? '-' ('-' :: cs) = some cs := readMark?_cons (by decide)
  have hreadMonth : ∀ cs, readDigits? 2 (padded 2 month ++ cs) = some (month, cs) :=
    readDigits?_padded (by omega) (by omega)
  have hreadDay : ∀ cs, readDigits? 2 (padded 2 day ++ cs) = some (day, cs) :=
    readDigits?_padded (by omega) (by omega)
  simp only [readDate?, Option.bind_eq_bind, Option.bind_some, readYear?_yearText h, hdash, hreadMonth,
    hreadDay, hrange, if_true, hdate]

theorem readTime?_text (minute : Fin 1440) (second : Fin 61) (nano : Fin 1000000000) :
    readTime? (padded 2 (minute.val / 60) ++ ':' :: (padded 2 (minute.val % 60) ++
      ':' :: (padded 2 second.val ++ (fractionText nano.val ++ ['Z'])))) =
      some ((minute, second, nano), ['Z']) := by
  have hminute := minute.isLt
  have hsecond := second.isLt
  have hcolon : ∀ cs, readMark? ':' (':' :: cs) = some cs := readMark?_cons (by decide)
  have hreadHour : ∀ cs, readDigits? 2 (padded 2 (minute.val / 60) ++ cs) = some (minute.val / 60, cs) :=
    readDigits?_padded (by omega) (by omega)
  have hreadMinute : ∀ cs,
      readDigits? 2 (padded 2 (minute.val % 60) ++ cs) = some (minute.val % 60, cs) :=
    readDigits?_padded (by omega) (by omega)
  have hreadSecond : ∀ cs, readDigits? 2 (padded 2 second.val ++ cs) = some (second.val, cs) :=
    readDigits?_padded (by omega) (by omega)
  have hclock : minute.val / 60 < 24 ∧ minute.val % 60 < 60 ∧ second.val < 61 := by omega
  have hsum : minute.val / 60 * 60 + minute.val % 60 = minute.val := by omega
  simp only [readTime?, Option.bind_eq_bind, Option.bind_some, hcolon, hreadHour, hreadMinute,
    hreadSecond, readFraction?_fractionText, dif_pos hclock, hsum]

theorem ofLocal_zero (t : Instant) : ofLocal t.date t.minute 0 t.second t.nano = t := by
  obtain ⟨date, minute, second, nano⟩ := t
  have hminute := minute.isLt
  have hlow : ¬ ((minute.val : Int) - 0 < 0) := by omega
  have hhigh : ¬ (1440 ≤ (minute.val : Int) - 0) := by omega
  have hmod : (((minute.val : Int) - 0) % 1440).toNat = minute.val := by omega
  simp only [ofLocal, hlow, hhigh, if_false, hmod]

/-- The text of an instant in the years 0 to 9999 is read as the instant. -/
theorem ofText?_text (t : Instant) (h : 0 ≤ t.date.year ∧ t.date.year ≤ 9999) :
    ofText? t.text = some t := by
  have hrange : yearRange t.date.year = true := by
    simp only [yearRange, decide_eq_true_eq]
    omega
  have htrim : trimStart ['Z'] = ['Z'] := rfl
  simp only [ofText?, text, String.toList_ofList, List.append_assoc, List.cons_append,
    Option.bind_eq_bind, Option.bind_some, readDate?_text t.date h, readTime?_text, readOffset?, htrim,
    ofLocal_zero]
  exact if_pos ⟨rfl, hrange⟩

end PublicationIndicator.Instant
