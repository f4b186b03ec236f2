import PublicationIndicator.Instant.Basic
import PublicationIndicator.Text.Blank
import PublicationIndicator.Text.Digits

/-!
# PublicationIndicator.Instant.Text — instants as text (RFC 3339)

An instant is written in UTC with as few groups of three fraction digits as lose nothing.  Reading
takes any offset and is lenient about leading zeros, blanks between the parts and signed years.
-/

namespace PublicationIndicator.Instant

open Text

/-! ### Writing -/

/-- The year with at least four digits, and with a sign unless four digits do. -/
def yearText (year : Int) : List Char :=
  if 0 ≤ year ∧ year ≤ 9999 then padded 4 year.toNat
  else (if year < 0 then '-' else '+') :: padded 4 year.natAbs

/-- The fraction of a second with 0, 3, 6 or 9 digits, the fewest that lose nothing. -/
def fractionText (nano : Nat) : List Char :=
  if nano = 0 then []
  else if nano % 1000000 = 0 then '.' :: padded 3 (nano / 1000000)
  else if nano % 1000 = 0 then '.' :: padded 6 (nano / 1000)
  else '.' :: padded 9 nano

/-- The instant as date and time in UTC. -/
def text (t : Instant) : String :=
  String.ofList (yearText t.date.year ++ '-' :: padded 2 t.date.month ++ '-' :: padded 2 t.date.day ++
    'T' :: padded 2 (t.minute.val / 60) ++ ':' :: padded 2 (t.minute.val % 60) ++
    ':' :: padded 2 t.second.val ++ fractionText t.nano.val ++ ['Z'])

/-! ### Reading -/

/-- Reads at least one digit and at most `width`, after blanks. -/
def readDigits? (width : Nat) (cs : List Char) : Option (Nat × List Char) :=
  let cs := trimStart cs
  let ds := (cs.take width).takeWhile isDigit
  if ds = [] then none else some (digitsValue ds, cs.drop ds.length)

/-- Reads one character, after blanks. -/
def readMark? (mark : Char) (cs : List Char) : Option (List Char) :=
  match trimStart cs with
  | c :: rest => if c = mark then some rest else none
  | [] => none

/-- Reads a year: four digits at most without a sign, any number of digits with one. -/
def readYear? (cs : List Char) : Option (Int × List Char) :=
  let signed (rest : List Char) : Option (Nat × List Char) :=
    let ds := rest.takeWhile isDigit
    if ds = [] then none else some (digitsValue ds, rest.drop ds.length)
  match trimStart cs with
  | '-' :: rest => (signed rest).map fun r => (-(r.1 : Int), r.2)
  | '+' :: rest => (signed rest).map fun r => ((r.1 : Int), r.2)
  | cs => (readDigits? 4 cs).map fun r => ((r.1 : Int), r.2)

/-- The years that an instant may have. -/
def yearRange (year : Int) : Bool := -262143 ≤ year ∧ year ≤ 262142

/-- Reads year, month and day. -/
def readDate? (cs : List Char) : Option (Date × List Char) := do
  let (year, cs) ← readYear? cs
  let cs ← readMark? '-' cs
  let (month, cs) ← readDigits? 2 cs
  let cs ← readMark? '-' cs
  let (day, cs) ← readDigits? 2 cs
  if yearRange year then some (← Date.of? year month day, cs) else none

/-- Reads the fraction of a second, if there is one; digits after the ninth do not count. -/
def readFraction? (cs : List Char) : Option (Fin 1000000000 × List Char) :=
  match cs with
  | '.' :: rest =>
    let ds := rest.takeWhile isDigit
    let nine := (ds ++ List.replicate 9 '0').take 9
    if ds = [] then none else some (Fin.ofNat 1000000000 (digitsValue nine), rest.drop ds.length)
  | cs => some (0, cs)

/-- Reads hour, minute, second and fraction. -/
def readTime? (cs : List Char) : Option ((Fin 1440 × Fin 61 × Fin 1000000000) × List Char) := do
  let (hour, cs) ← readDigits? 2 cs
  let cs ← readMark? ':' cs
  let (minute, cs) ← readDigits? 2 cs
  let cs ← readMark? ':' cs
  let (second, cs) ← readDigits? 2 cs
  let (nano, cs) ← readFraction? cs
  if h : hour < 24 ∧ minute < 60 ∧ second < 61 then
    some ((⟨hour * 60 + minute, by omega⟩, ⟨second, h.2.2⟩, nano), cs)
  else none

/-- Reads two digits at the front. -/
def readTwoDigits? (cs : List Char) : Option (Nat × List Char) :=
  match cs with
  | a :: b :: rest => if isDigit a ∧ isDigit b then some (digitsValue [a, b], rest) else none
  | _ => none

/-- Reads how many minutes clocks are ahead of UTC: hours and minutes with a sign, less than a day. -/
def readSigned? (cs : List Char) : Option (Int × List Char) := do
  let (sign, cs) ←
    match cs with
    | '+' :: rest => some (1, rest)
    | '-' :: rest => some (-1, rest)
    | '\u2212' :: rest => some (-1, rest)
    | _ => none
  let (hours, cs) ← readTwoDigits? cs
  let (minutes, cs) ← readTwoDigits? (cs.dropWhile fun c => c = ':' ∨ isBlankChar c)
  if hours < 24 ∧ minutes < 60 then some (sign * (hours * 60 + minutes : Nat), cs) else none

/-- Reads an offset from UTC, after blanks: `Z`, `UTC`, or hours and minutes. -/
def readOffset? (cs : List Char) : Option (Int × List Char) :=
  match trimStart cs with
  | 'Z' :: rest => some (0, rest)
  | 'z' :: rest => some (0, rest)
  | cs =>
    if (cs.take 3).map Char.toUpper = ['U', 'T', 'C'] then some (0, cs.drop 3) else readSigned? cs

/-- Reads an instant: a date, `T` or a blank, a time and an offset from UTC. -/
def ofText? (s : String) : Option Instant := do
  let (date, cs) ← readDate? s.toList
  let cs ←
    match cs with
    | 'T' :: rest => some rest
    | 't' :: rest => some rest
    | ' ' :: rest => some rest
    | _ => none
  let ((minute, second, nano), cs) ← readTime? cs
  let (offset, cs) ← readOffset? cs
  let t := ofLocal date minute offset second nano
  if trimStart cs = [] ∧ yearRange t.date.year then some t else none

end PublicationIndicator.Instant
