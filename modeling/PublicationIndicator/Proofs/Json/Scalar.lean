import PublicationIndicator.Json.Reader
import PublicationIndicator.Json.Writer
import PublicationIndicator.Proofs.Text.Digits

/-!
# PublicationIndicator.Proofs.Json.Scalar — strings and numbers are read back as they were written

A string is escaped where it must be, and reading undoes the escapes (`readBody?_writeString`).  A whole
number of 64 bits is written in digits and read from them, provided that nothing behind it could belong
to it (`readNumber?_text`).
-/

namespace PublicationIndicator.Json

open Text

variable {tail : List Char}

/-! ### Strings -/

/-- What was read, where no half of a surrogate pair waits. -/
def StringPart.of (read : List Char) : StringPart := ⟨some read, none⟩

theorem push_of (read : List Char) (c : Char) : (StringPart.of read).push c = .of (c :: read) := rfl

theorem hexQuad?_hexDigit {n : Nat} (h : n < 0x20) :
    hexQuad? '0' '0' (hexDigit (n / 16)) (hexDigit (n % 16)) = some n := by
  revert n
  decide

/-- A code unit below the surrogates is a character. -/
theorem pushUnit_of (read : List Char) {n : Nat} (h : n < 0xD800) :
    (StringPart.of read).pushUnit n = .of (Char.ofNat n :: read) := by
  have hhigh : isHighSurrogate n = false := by
    simp only [isHighSurrogate, decide_eq_false_iff_not]
    omega
  have hlow : isLowSurrogate n = false := by
    simp only [isLowSurrogate, decide_eq_false_iff_not]
    omega
  rw [StringPart.pushUnit, hhigh, hlow]
  rfl

/-- A character that is written is read back. -/
theorem readBody?_writeChar (read : List Char) (c : Char) (tail : List Char) :
    readBody? (.of read) (writeChar c tail) = readBody? (.of (c :: read)) tail := by
  rw [writeChar]
  repeat' split
  any_goals
    subst_vars
    rfl
  · -- a control character without a letter of its own
    rename_i hcontrol
    have hunit : (StringPart.of read).pushUnit c.toNat = .of (c :: read) := by
      rw [pushUnit_of read (by omega), Char.ofNat_toNat]
    simp only [readBody?, hexQuad?_hexDigit hcontrol, hunit]
  · -- a character that stands for itself
    rename_i _ hbackslash _ _ _ _ _ hcontrol
    rw [readBody?.eq_def]
    simp [hbackslash, hcontrol, push_of]

theorem readBody?_foldr_writeChar (read cs tail : List Char) :
    readBody? (.of read) (cs.foldr writeChar ('"' :: tail)) =
      some (some (String.ofList (read.reverse ++ cs)), tail) := by
  induction cs generalizing read with
  | nil => simp [readBody?, StringPart.text?, StringPart.settled, StringPart.of]
  | cons c cs ih =>
    rw [List.foldr_cons, readBody?_writeChar, ih, List.reverse_cons, List.append_assoc,
      List.singleton_append]

/-- What is written of a string behind its first quote is read as the string. -/
theorem readBody?_writeString (s : String) (tail : List Char) :
    readBody? .start (s.toList.foldr writeChar ('"' :: tail)) = some (some s, tail) := by
  have h := readBody?_foldr_writeChar [] s.toList tail
  rwa [List.reverse_nil, List.nil_append, String.ofList_toList] at h

/-! ### Numbers -/

/-- Nothing at the front could belong to a number that ends here. -/
def EndsNumber (cs : List Char) : Prop :=
  ∀ c, cs.head? = some c → isDigit c = false ∧ c ≠ '.' ∧ c ≠ 'e' ∧ c ≠ 'E'

theorem endsNumber_nil : EndsNumber [] := by
  intro c hc
  cases hc

theorem endsNumber_cons {c : Char} (h : isDigit c = false ∧ c ≠ '.' ∧ c ≠ 'e' ∧ c ≠ 'E') :
    EndsNumber (c :: tail) := by
  intro c' hc
  cases hc
  exact h

theorem EndsNumber.startsOtherwise (h : EndsNumber tail) : StartsOtherwise tail :=
  fun c hc => (h c hc).1

theorem readFraction?_of_endsNumber (h : EndsNumber tail) : readFraction? tail = some ([], tail) := by
  cases tail with
  | nil => rfl
  | cons c rest =>
    obtain ⟨-, hpoint, -, -⟩ := h c rfl
    rw [readFraction?.eq_def]
    simp [hpoint]

theorem readExponent?_of_endsNumber (h : EndsNumber tail) :
    readExponent? tail = some ([], [], tail) := by
  cases tail with
  | nil => rfl
  | cons c rest =>
    obtain ⟨-, -, hlower, hupper⟩ := h c rfl
    simp [readExponent?, hlower, hupper]

/-- The digits of a number have no zero too many in front. -/
theorem readWhole?_toDigits (n : Nat) (h : EndsNumber tail) :
    readWhole? (Nat.toDigits 10 n ++ tail) = some (Nat.toDigits 10 n, tail) := by
  have hdigits : ∀ c ∈ Nat.toDigits 10 n, isDigit c = true := fun c hc => isDigit_of_mem_toDigits hc
  have hzero : ¬ ((Nat.toDigits 10 n).head? = some '0' ∧ Nat.toDigits 10 n ≠ ['0']) := by
    rintro ⟨hhead, hne⟩
    by_cases hn : n = 0
    · subst hn
      exact hne (Nat.toDigits_zero 10)
    · exact head?_toDigits_ne hn hhead
  rw [readWhole?, takeWhile_isDigit_append hdigits h.startsOtherwise,
    dropWhile_isDigit_append hdigits h.startsOtherwise]
  simp [Nat.toDigits_ne_nil, hzero]

/-- Digits alone, with or without a minus in front, are a whole number if they fit into 64 bits. -/
theorem value_of_digits (negative : Bool) {m : Nat} {n : Int}
    (hn : n = if negative then -(m : Int) else m) (hfits : fitsWord n = true)
    (hzero : ¬ (negative = true ∧ n = 0)) (sign : List Char) :
    (NumberParts.mk negative (Nat.toDigits 10 m) [] [] sign).value = .number (.whole n) := by
  simp [NumberParts.value, digitsValue_toDigits, ← hn, hfits, hzero]

/-- A whole number that fits into 64 bits is read from its digits. -/
theorem readNumber?_text {n : Int} (hfits : fitsWord n = true) (h : EndsNumber tail) :
    readNumber? ((JsonNumber.whole n).text.toList ++ tail) = some (.number (.whole n), tail) := by
  cases n with
  | ofNat m =>
    have htext : (JsonNumber.whole (Int.ofNat m)).text.toList = Nat.toDigits 10 m := Nat.toList_repr
    have hsign : (Nat.toDigits 10 m ++ tail).head? ≠ some '-' := by
      obtain ⟨c, rest, hcons, hdigit⟩ := exists_toDigits m
      rw [hcons]
      rintro ⟨⟩
      cases hdigit
    have hvalue := value_of_digits false (m := m) rfl hfits (by simp) []
    rw [htext, readNumber?]
    simp only [hsign, if_false, Option.bind_eq_bind, Option.bind_some, readWhole?_toDigits m h,
      readFraction?_of_endsNumber h, readExponent?_of_endsNumber h, hvalue]
    rfl
  | negSucc m =>
    have htext : (JsonNumber.whole (Int.negSucc m)).text.toList = '-' :: Nat.toDigits 10 (m + 1) := by
      change ("-" ++ Nat.repr (m + 1)).toList = _
      rw [String.toList_append, Nat.toList_repr]
      rfl
    have hvalue := value_of_digits true (Int.negSucc_eq m) hfits (by omega) []
    rw [htext, readNumber?]
    simp only [List.cons_append, List.head?_cons, List.tail_cons, if_true, Option.bind_eq_bind,
      Option.bind_some, readWhole?_toDigits (m + 1) h, readFraction?_of_endsNumber h,
      readExponent?_of_endsNumber h, hvalue]

end PublicationIndicator.Json
