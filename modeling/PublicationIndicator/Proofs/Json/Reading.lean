import PublicationIndicator.Proofs.Json.Scalar

/-!
# PublicationIndicator.Proofs.Json.Reading — JSON values are read back as they were written

A value is plain if its text holds all of it.  The text of a plain value on one line is read as the
value (`read_compact`): the reader needs fewer steps than it takes, and each part ends where the writer
ended it.
-/

namespace PublicationIndicator.Json

open Text

variable {j : Json} {name : String} {items : List Json} {fields : List (String × Json)}
  {cs rest tail : List Char} {c : Char} {steps : Nat}

/-! ### Values that are written in full -/

mutual

/-- Is the value readable, and are its numbers whole ones of 64 bits?  Such values are all that the
program writes. -/
def isPlain : Json → Bool
  | .array items => isPlainItems items
  | .object fields => isPlainFields fields
  | .number (.whole n) => fitsWord n
  | .number (.binary _ _) => false
  | .unreadable => false
  | .broken => false
  | _ => true

/-- `isPlain` for a list. -/
def isPlainItems : List Json → Bool
  | [] => true
  | j :: rest => j.isPlain && isPlainItems rest

/-- `isPlain` for a list of fields. -/
def isPlainFields : List (String × Json) → Bool
  | [] => true
  | (_, j) :: rest => j.isPlain && isPlainFields rest

end

theorem isPlainItems_cons : isPlainItems (j :: items) = true ↔
    j.isPlain = true ∧ isPlainItems items = true := by
  rw [isPlainItems, Bool.and_eq_true]

theorem isPlainFields_cons : isPlainFields ((name, j) :: fields) = true ↔
    j.isPlain = true ∧ isPlainFields fields = true := by
  rw [isPlainFields, Bool.and_eq_true]

/-! ### Steps of the reader -/

theorem skipSpace_cons (h : isSpace c = false) : skipSpace (c :: cs) = c :: cs := by
  simp [skipSpace, h]

theorem readValue_array_nil (h : skipSpace cs = '[' :: rest) (hrest : skipSpace rest = ']' :: tail) :
    readValue (steps + 1) cs = (.array [], some tail) := by
  simp [readValue, h, hrest]

theorem readValue_array {rest' : List Char} (h : skipSpace cs = '[' :: rest)
    (hrest : skipSpace rest = c :: rest') (hc : c ≠ ']')
    (hitems : readItems steps (c :: rest') = (items, some tail)) :
    readValue (steps + 1) cs = (.array items, some tail) := by
  simp [readValue, h, hrest, hc, hitems]

theorem readValue_object_nil (h : skipSpace cs = '\x7b' :: rest)
    (hrest : skipSpace rest = '\x7d' :: tail) :
    readValue (steps + 1) cs = (.object [], some tail) := by
  simp [readValue, h, hrest]

theorem readValue_object {rest' : List Char} (h : skipSpace cs = '\x7b' :: rest)
    (hrest : skipSpace rest = c :: rest') (hc : c ≠ '\x7d')
    (hfields : readFields steps (c :: rest') = (fields, some tail)) :
    readValue (steps + 1) cs = (.object fields, some tail) := by
  simp [readValue, h, hrest, hc, hfields]

theorem readItems_last (hvalue : readValue steps cs = (j, some rest))
    (hrest : skipSpace rest = ']' :: tail) : readItems (steps + 1) cs = ([j], some tail) := by
  simp [readItems, hvalue, hrest]

theorem readItems_cons {rest' : List Char} (hvalue : readValue steps cs = (j, some rest))
    (hrest : skipSpace rest = ',' :: rest') (hitems : readItems steps rest' = (items, some tail)) :
    readItems (steps + 1) cs = (j :: items, some tail) := by
  simp [readItems, hvalue, hrest, hitems]

theorem readFields_last {rest' : List Char} (h : skipSpace cs = writeString name (':' :: rest))
    (hvalue : readValue steps rest = (j, some rest')) (hrest : skipSpace rest' = '\x7d' :: tail) :
    readFields (steps + 1) cs = ([(name, j)], some tail) := by
  rw [writeString] at h
  simp [readFields, h, readBody?_writeString, skipSpace_cons (c := ':') rfl, hvalue, hrest]

theorem readFields_cons {rest' rest'' : List Char} (h : skipSpace cs = writeString name (':' :: rest))
    (hvalue : readValue steps rest = (j, some rest')) (hrest : skipSpace rest' = ',' :: rest'')
    (hfields : readFields steps rest'' = (fields, some tail)) :
    readFields (steps + 1) cs = ((name, j) :: fields, some tail) := by
  rw [writeString] at h
  simp [readFields, h, readBody?_writeString, skipSpace_cons (c := ':') rfl, hvalue, hrest, hfields]

/-! ### Scalars -/

/-- A value can start here: there is no blank at the front, and no closing bracket. -/
def Opens (cs : List Char) : Prop := ∃ c rest, cs = c :: rest ∧ isSpace c = false ∧ c ≠ ']'

theorem opens_cons (hspace : isSpace c = false) (hc : c ≠ ']') : Opens (c :: cs) :=
  ⟨c, cs, rfl, hspace, hc⟩

theorem Opens.skipSpace (h : Opens cs) : skipSpace cs = cs := by
  obtain ⟨c, rest, rfl, hspace, -⟩ := h
  exact skipSpace_cons hspace

/-- A number starts with a digit or a minus. -/
theorem exists_cons_text (n : Int) : ∃ c rest, (JsonNumber.whole n).text.toList = c :: rest ∧
    (isDigit c = true ∨ c = '-') := by
  cases n with
  | ofNat m =>
    obtain ⟨c, rest, hcons, hdigit⟩ := exists_toDigits m
    exact ⟨c, rest, Nat.toList_repr.trans hcons, .inl hdigit⟩
  | negSucc m => exact ⟨'-', (Nat.repr (m + 1)).toList, String.toList_append, .inr rfl⟩

theorem ne_of_number_start (other : Char) (h : isDigit c = true ∨ c = '-')
    (hdigit : isDigit other = false) (hminus : other ≠ '-') : c ≠ other := by
  rintro rfl
  rcases h with h | h
  · rw [hdigit] at h
    cases h
  · exact hminus h

theorem opens_number (n : Int) (tail : List Char) :
    Opens ((JsonNumber.whole n).text.toList ++ tail) := by
  obtain ⟨c, rest, htext, hc⟩ := exists_cons_text n
  rw [htext]
  refine opens_cons ?_ (ne_of_number_start ']' hc rfl (by decide))
  have hblank := ne_of_number_start ' ' hc rfl (by decide)
  have htab := ne_of_number_start '\t' hc rfl (by decide)
  have hline := ne_of_number_start '\n' hc rfl (by decide)
  have hreturn := ne_of_number_start '\r' hc rfl (by decide)
  simp [isSpace, hblank, htab, hline, hreturn]

/-- Is it neither an array nor an object? -/
def isScalar : Json → Bool
  | .array _ => false
  | .object _ => false
  | _ => true

theorem opens_writeScalar (hscalar : j.isScalar = true) (hj : j.isPlain = true) (tail : List Char) :
    Opens (writeScalar j tail) := by
  cases j with
  | null => exact opens_cons rfl (by decide)
  | bool b => cases b <;> exact opens_cons rfl (by decide)
  | number n =>
    cases n with
    | whole n => exact opens_number n tail
    | binary negative x => cases hj
  | string s => exact opens_cons rfl (by decide)
  | array items => cases hscalar
  | object fields => cases hscalar
  | unreadable => cases hj
  | broken => cases hj

/-- A scalar is read back. -/
theorem readValue_scalar (hscalar : j.isScalar = true) (hj : j.isPlain = true) (htail : EndsNumber tail)
    (h : skipSpace cs = writeScalar j tail) : readValue (steps + 1) cs = (j, some tail) := by
  cases j with
  | null => simp [readValue, h, writeScalar, readWord]
  | bool b => cases b <;> simp [readValue, h, writeScalar, readWord]
  | number n =>
    cases n with
    | whole n =>
      have hread := readNumber?_text hj htail
      obtain ⟨c, rest, htext, hc⟩ := exists_cons_text n
      have hbracket := ne_of_number_start '[' hc rfl (by decide)
      have hbrace := ne_of_number_start '\x7b' hc rfl (by decide)
      have hquote := ne_of_number_start '"' hc rfl (by decide)
      have hnull := ne_of_number_start 'n' hc rfl (by decide)
      have htrue := ne_of_number_start 't' hc rfl (by decide)
      have hfalse := ne_of_number_start 'f' hc rfl (by decide)
      rw [writeScalar, htext, List.cons_append] at h
      rw [htext, List.cons_append] at hread
      simp [readValue, h, hbracket, hbrace, hquote, hnull, htrue, hfalse, hread]
    | binary negative x => cases hj
  | string s =>
    rw [writeScalar, writeString] at h
    simp [readValue, h, readBody?_writeString]
  | array items => cases hscalar
  | object fields => cases hscalar
  | unreadable => cases hj
  | broken => cases hj

/-! ### On one line -/

theorem opens_writeCompact (hj : j.isPlain = true) (tail : List Char) :
    Opens (writeCompact j tail) := by
  cases j with
  | array items => exact opens_cons rfl (by decide)
  | object fields => exact opens_cons rfl (by decide)
  | _ => exact opens_writeScalar rfl hj tail

theorem writeItems_cons (j k : Json) (rest : List Json) (tail : List Char) :
    writeItems (j :: k :: rest) tail = writeCompact j (',' :: writeItems (k :: rest) tail) := by
  simp only [writeItems]

theorem writeFields_cons (name : String) (j : Json) (f : String × Json) (rest : List (String × Json))
    (tail : List Char) : writeFields ((name, j) :: f :: rest) tail =
      writeString name (':' :: writeCompact j (',' :: writeFields (f :: rest) tail)) := by
  simp only [writeFields]

theorem opens_writeItems (j : Json) (rest : List Json) (h : isPlainItems (j :: rest) = true) (tail : List Char) :
    Opens (writeItems (j :: rest) tail) := by
  have hj := (isPlainItems_cons.1 h).1
  cases rest with
  | nil => exact opens_writeCompact hj tail
  | cons k rest =>
    rw [writeItems_cons]
    exact opens_writeCompact hj _

theorem exists_writeFields (f : String × Json) (rest : List (String × Json)) (tail : List Char) :
    ∃ cs, writeFields (f :: rest) tail = '"' :: cs := by
  cases rest with
  | nil => exact ⟨_, rfl⟩
  | cons g rest => exact ⟨_, writeFields_cons f.1 f.2 g rest tail⟩

/-! ### Lengths -/

theorem length_lt_writeChar (c : Char) (tail : List Char) : tail.length < (writeChar c tail).length := by
  rw [writeChar]
  repeat' split
  all_goals simp only [List.length_cons]
  all_goals omega

theorem length_lt_writeString (s : String) (tail : List Char) :
    tail.length < (writeString s tail).length := by
  have hbody : ∀ cs : List Char, tail.length < (cs.foldr writeChar ('"' :: tail)).length := by
    intro cs
    induction cs with
    | nil => exact Nat.lt_succ_self _
    | cons c cs ih => exact Nat.lt_trans ih (length_lt_writeChar c _)
  rw [writeString, List.length_cons]
  exact Nat.lt_succ_of_lt (hbody s.toList)

/-- A field is longer than its value. -/
theorem length_lt_writeField (name : String) (cs : List Char) :
    cs.length < (writeString name (':' :: cs)).length := by
  have h := length_lt_writeString name (':' :: cs)
  rw [List.length_cons] at h
  omega

theorem length_le_writeScalar (j : Json) (tail : List Char) :
    tail.length ≤ (writeScalar j tail).length := by
  cases j with
  | null => exact Nat.le_add_right _ 4
  | bool b => cases b <;> simp only [writeScalar, List.length_cons] <;> omega
  | number n => simp [writeScalar]
  | string s => exact Nat.le_of_lt (length_lt_writeString s tail)
  | _ => exact Nat.le_refl _

mutual

theorem length_le_writeCompact : ∀ (j : Json) (tail : List Char),
    tail.length ≤ (writeCompact j tail).length
  | .array items, tail => by
    have h := length_le_writeItems items (']' :: tail)
    rw [List.length_cons] at h
    rw [writeCompact, List.length_cons]
    omega
  | .object fields, tail => by
    have h := length_le_writeFields fields ('\x7d' :: tail)
    rw [List.length_cons] at h
    rw [writeCompact, List.length_cons]
    omega
  | .null, tail => length_le_writeScalar .null tail
  | .bool b, tail => length_le_writeScalar (.bool b) tail
  | .number n, tail => length_le_writeScalar (.number n) tail
  | .string s, tail => length_le_writeScalar (.string s) tail
  | .unreadable, tail => length_le_writeScalar .unreadable tail
  | .broken, tail => length_le_writeScalar .broken tail

theorem length_le_writeItems : ∀ (items : List Json) (tail : List Char),
    tail.length ≤ (writeItems items tail).length
  | [], tail => Nat.le_refl _
  | [j], tail => length_le_writeCompact j tail
  | j :: k :: rest, tail => by
    have hj := length_le_writeCompact j (',' :: writeItems (k :: rest) tail)
    have hrest := length_le_writeItems (k :: rest) tail
    rw [List.length_cons] at hj
    rw [writeItems_cons]
    omega

theorem length_le_writeFields : ∀ (fields : List (String × Json)) (tail : List Char),
    tail.length ≤ (writeFields fields tail).length
  | [], tail => Nat.le_refl _
  | [(name, j)], tail => by
    have hname := length_lt_writeField name (writeCompact j tail)
    have hj := length_le_writeCompact j tail
    rw [writeFields]
    omega
  | (name, j) :: f :: rest, tail => by
    have hname := length_lt_writeField name (writeCompact j (',' :: writeFields (f :: rest) tail))
    have hj := length_le_writeCompact j (',' :: writeFields (f :: rest) tail)
    have hrest := length_le_writeFields (f :: rest) tail
    rw [List.length_cons] at hj
    rw [writeFields_cons]
    omega

end

/-! ### Values -/

mutual

/-- A value on one line is read back.  The induction is on the steps: the parts of a value need fewer. -/
theorem readValue_writeCompact : ∀ (steps : Nat) (j : Json) (tail : List Char), j.isPlain = true →
    EndsNumber tail → 2 * (writeCompact j tail).length ≤ steps →
    readValue steps (writeCompact j tail) = (j, some tail)
  | 0, j, tail, hj, _, hsteps => by
    obtain ⟨c, rest, hcons, -⟩ := opens_writeCompact hj tail
    simp [hcons] at hsteps
  | steps + 1, .array [], tail, _, _, _ => readValue_array_nil rfl rfl
  | steps + 1, .array (j :: rest), tail, hj, _, hsteps => by
    rw [writeCompact, List.length_cons] at hsteps
    have hitems := readItems_writeItems steps j rest tail hj (by omega)
    obtain ⟨c, cs, hcons, hspace, hc⟩ := opens_writeItems j rest hj (']' :: tail)
    rw [hcons] at hitems
    have hskip : skipSpace (writeItems (j :: rest) (']' :: tail)) = c :: cs := by
      rw [hcons, skipSpace_cons hspace]
    exact readValue_array (skipSpace_cons rfl) hskip hc hitems
  | steps + 1, .object [], tail, _, _, _ => readValue_object_nil rfl rfl
  | steps + 1, .object ((name, j) :: rest), tail, hj, _, hsteps => by
    rw [writeCompact, List.length_cons] at hsteps
    have hfields := readFields_writeFields steps name j rest tail hj (by omega)
    obtain ⟨cs, hcons⟩ := exists_writeFields (name, j) rest ('\x7d' :: tail)
    rw [hcons] at hfields
    have hskip : skipSpace (writeFields ((name, j) :: rest) ('\x7d' :: tail)) = '"' :: cs := by
      rw [hcons, skipSpace_cons rfl]
    exact readValue_object (skipSpace_cons rfl) hskip (by decide) hfields
  | steps + 1, .null, tail, hj, htail, _ =>
    readValue_scalar rfl hj htail (opens_writeScalar rfl hj tail).skipSpace
  | steps + 1, .bool b, tail, hj, htail, _ =>
    readValue_scalar rfl hj htail (opens_writeScalar rfl hj tail).skipSpace
  | steps + 1, .number n, tail, hj, htail, _ =>
    readValue_scalar rfl hj htail (opens_writeScalar rfl hj tail).skipSpace
  | steps + 1, .string s, tail, hj, htail, _ =>
    readValue_scalar rfl hj htail (opens_writeScalar rfl hj tail).skipSpace
  | _ + 1, .unreadable, _, hj, _, _ => by cases hj
  | _ + 1, .broken, _, hj, _, _ => by cases hj

theorem readItems_writeItems : ∀ (steps : Nat) (j : Json) (rest : List Json) (tail : List Char),
    isPlainItems (j :: rest) = true → 2 * (writeItems (j :: rest) (']' :: tail)).length < steps →
    readItems steps (writeItems (j :: rest) (']' :: tail)) = (j :: rest, some tail)
  | 0, _, _, _, _, hsteps => absurd hsteps (Nat.not_lt_zero _)
  | steps + 1, j, [], tail, hj, hsteps => by
    obtain ⟨hj, -⟩ := isPlainItems_cons.1 hj
    have hvalue := readValue_writeCompact steps j (']' :: tail) hj (endsNumber_cons (by decide))
      (Nat.le_of_lt_succ hsteps)
    exact readItems_last hvalue (skipSpace_cons rfl)
  | steps + 1, j, k :: rest, tail, hj, hsteps => by
    obtain ⟨hj, hrest⟩ := isPlainItems_cons.1 hj
    have hlength := length_le_writeCompact j (',' :: writeItems (k :: rest) (']' :: tail))
    rw [List.length_cons] at hlength
    rw [writeItems_cons] at hsteps ⊢
    have hvalue := readValue_writeCompact steps j (',' :: writeItems (k :: rest) (']' :: tail)) hj
      (endsNumber_cons (by decide)) (by omega)
    have hitems := readItems_writeItems steps k rest tail hrest (by omega)
    exact readItems_cons hvalue (skipSpace_cons rfl) hitems

theorem readFields_writeFields : ∀ (steps : Nat) (name : String) (j : Json)
    (rest : List (String × Json)) (tail : List Char), isPlainFields ((name, j) :: rest) = true →
    2 * (writeFields ((name, j) :: rest) ('\x7d' :: tail)).length < steps →
    readFields steps (writeFields ((name, j) :: rest) ('\x7d' :: tail)) =
      ((name, j) :: rest, some tail)
  | 0, _, _, _, _, _, hsteps => absurd hsteps (Nat.not_lt_zero _)
  | steps + 1, name, j, [], tail, hj, hsteps => by
    obtain ⟨hj, -⟩ := isPlainFields_cons.1 hj
    have hname := length_lt_writeField name (writeCompact j ('\x7d' :: tail))
    rw [writeFields] at hsteps ⊢
    have hvalue := readValue_writeCompact steps j ('\x7d' :: tail) hj (endsNumber_cons (by decide))
      (by omega)
    exact readFields_last (skipSpace_cons rfl) hvalue (skipSpace_cons rfl)
  | steps + 1, name, j, (name', k) :: rest, tail, hj, hsteps => by
    obtain ⟨hj, hrest⟩ := isPlainFields_cons.1 hj
    rw [writeFields_cons] at hsteps ⊢
    have hname := length_lt_writeField name
      (writeCompact j (',' :: writeFields ((name', k) :: rest) ('\x7d' :: tail)))
    have hlength := length_le_writeCompact j (',' :: writeFields ((name', k) :: rest) ('\x7d' :: tail))
    rw [List.length_cons] at hlength
    have hvalue := readValue_writeCompact steps j
      (',' :: writeFields ((name', k) :: rest) ('\x7d' :: tail)) hj (endsNumber_cons (by decide))
      (by omega)
    have hfields := readFields_writeFields steps name' k rest tail hrest (by omega)
    exact readFields_cons (skipSpace_cons rfl) hvalue (skipSpace_cons rfl) hfields

end

/-- The text of a value is read as the value. -/
theorem read_compact (hj : j.isPlain = true) : read j.compact = (j, some []) := by
  simp only [read, compact, String.toList_ofList]
  exact readValue_writeCompact _ j [] hj endsNumber_nil (by omega)

end PublicationIndicator.Json
