import PublicationIndicator.Json.Basic
import PublicationIndicator.Text.Digits

/-!
# PublicationIndicator.Json.Reader — JSON from text

`Json.read` reads one value from the front of a text and says what stands behind it.  The grammar is
the strict one: no comments, no trailing comma, no leading zeros, no raw control characters in
strings.  Where a text stops being JSON the value read so far ends in `broken` and no rest is given.
-/

namespace PublicationIndicator.Json

open Text

/-! ### Blanks -/

/-- The blanks between the parts of a JSON text. -/
def isSpace (c : Char) : Bool := c = ' ' ∨ c = '\t' ∨ c = '\n' ∨ c = '\r'

/-- What follows the blanks at the front. -/
def skipSpace (cs : List Char) : List Char := cs.dropWhile isSpace

/-! ### Numbers -/

/-- Does the whole number fit into 64 bits, with a sign or without? -/
def fitsWord (n : Int) : Bool := -9223372036854775808 ≤ n ∧ n < 18446744073709551616

/-- A number in its parts: sign, digits before the point, and, where they are written, digits behind
the point and the exponent with its sign. -/
structure NumberParts where
  negative : Bool
  whole : List Char
  fraction : List Char
  exponent : List Char
  exponentSign : List Char

/-- The value of a number, given its parts.  Zero with a sign is no whole number. -/
def NumberParts.value (p : NumberParts) : Json :=
  let n : Int := digitsValue p.whole
  let n := if p.negative then -n else n
  if p.fraction = [] ∧ p.exponent = [] ∧ fitsWord n ∧ ¬ (p.negative ∧ n = 0) then .number (.whole n)
  else
    let power : Int := digitsValue p.exponent
    let power := if p.exponentSign = ['-'] then -power else power
    match Binary64.ofDigits? p.whole p.fraction power with
    | some x => .number (.binary p.negative x)
    | none => .unreadable

/-- Reads an exponent, if there is one: its sign, its digits and the rest. -/
def readExponent? (cs : List Char) : Option (List Char × List Char × List Char) :=
  match cs with
  | c :: rest =>
    if c = 'e' ∨ c = 'E' then
      let (sign, rest) :=
        match rest with
        | '+' :: rest => (['+'], rest)
        | '-' :: rest => (['-'], rest)
        | rest => ([], rest)
      let ds := rest.takeWhile isDigit
      if ds = [] then none else some (sign, ds, rest.dropWhile isDigit)
    else some ([], [], cs)
  | [] => some ([], [], [])

/-- Reads the digits behind a point, if there is one, and the rest. -/
def readFraction? (cs : List Char) : Option (List Char × List Char) :=
  match cs with
  | '.' :: rest =>
    let ds := rest.takeWhile isDigit
    if ds = [] then none else some (ds, rest.dropWhile isDigit)
  | cs => some ([], cs)

/-- Reads the digits before the point, which start with a zero only if there is no other. -/
def readWhole? (cs : List Char) : Option (List Char × List Char) :=
  let ds := cs.takeWhile isDigit
  if ds = [] ∨ (ds.head? = some '0' ∧ ds ≠ ['0']) then none else some (ds, cs.dropWhile isDigit)

/-- Reads a number. -/
def readNumber? (cs : List Char) : Option (Json × List Char) := do
  let (negative, cs) := if cs.head? = some '-' then (true, cs.tail) else (false, cs)
  let (whole, cs) ← readWhole? cs
  let (fraction, cs) ← readFraction? cs
  let (sign, exponent, cs) ← readExponent? cs
  some ((NumberParts.mk negative whole fraction exponent sign).value, cs)

/-! ### Strings -/

/-- The value of four hexadecimal digits. -/
def hexQuad? (a b c d : Char) : Option Nat := do
  some (((← hexValue? a) * 16 + (← hexValue? b)) * 256 + ((← hexValue? c) * 16 + (← hexValue? d)))

/-- Is the code unit the first half of a surrogate pair? -/
def isHighSurrogate (n : Nat) : Bool := 0xD800 ≤ n ∧ n < 0xDC00

/-- Is the code unit the second half of a surrogate pair? -/
def isLowSurrogate (n : Nat) : Bool := 0xDC00 ≤ n ∧ n < 0xE000

/-- The character that a surrogate pair stands for. -/
def ofSurrogates (high low : Nat) : Char :=
  Char.ofNat (0x10000 + (high - 0xD800) * 0x400 + (low - 0xDC00))

/-- The character that a backslash and `c` stand for. -/
def escaped? (c : Char) : Option Char :=
  match c with
  | '"' => some '"'
  | '\\' => some '\\'
  | '/' => some '/'
  | 'b' => some '\x08'
  | 'f' => some '\x0c'
  | 'n' => some '\n'
  | 'r' => some '\r'
  | 't' => some '\t'
  | _ => none

/-- What was read of a string: its characters, the last in front, and the first half of a surrogate
pair that waits for its second.  Once a half stood alone the string has no characters to give. -/
structure StringPart where
  chars : Option (List Char)
  half : Option Nat

namespace StringPart

/-- Nothing was read yet. -/
def start : StringPart := ⟨some [], none⟩

/-- What was read, if no half waits. -/
def settled (p : StringPart) : Option (List Char) := if p.half.isSome then none else p.chars

/-- One character more. -/
def push (p : StringPart) (c : Char) : StringPart := ⟨p.settled.map (c :: ·), none⟩

/-- One code unit more. -/
def pushUnit (p : StringPart) (n : Nat) : StringPart :=
  if isHighSurrogate n then ⟨p.settled, some n⟩
  else if isLowSurrogate n then ⟨p.half.bind fun h => p.chars.map (ofSurrogates h n :: ·), none⟩
  else p.push (Char.ofNat n)

/-- The string, if every half found the other. -/
def text? (p : StringPart) : Option String := p.settled.map fun cs => String.ofList cs.reverse

end StringPart

/-- Reads the rest of a string after its opening quote. -/
def readBody? (p : StringPart) : List Char → Option (Option String × List Char)
  | [] => none
  | '"' :: rest => some (p.text?, rest)
  | '\\' :: 'u' :: a :: b :: c :: d :: rest =>
    match hexQuad? a b c d with
    | none => none
    | some n => readBody? (p.pushUnit n) rest
  | '\\' :: c :: rest =>
    match escaped? c with
    | none => none
    | some c' => readBody? (p.push c') rest
  | c :: rest => if c.toNat < 0x20 ∨ c = '\\' then none else readBody? (p.push c) rest

/-! ### Values -/

/-- Reads the rest of a word; `j` is the value that the word stands for. -/
def readWord (word : List Char) (j : Json) (cs : List Char) : Json × Option (List Char) :=
  if word.isPrefixOf cs then (j, some (cs.drop word.length)) else (.broken, none)

mutual

/-- Reads one value and says what stands behind it, unless the text stops being JSON in it.  The
first argument bounds the number of steps. -/
def readValue : Nat → List Char → Json × Option (List Char)
  | 0, _ => (.broken, none)
  | steps + 1, cs =>
    match skipSpace cs with
    | [] => (.broken, none)
    | c :: rest =>
      if c = '[' then
        match skipSpace rest with
        | ']' :: rest => (.array [], some rest)
        | rest =>
          let (items, rest) := readItems steps rest
          (.array items, rest)
      else if c = '\x7b' then
        match skipSpace rest with
        | '\x7d' :: rest => (.object [], some rest)
        | rest =>
          let (fields, rest) := readFields steps rest
          (.object fields, rest)
      else if c = '"' then
        match readBody? .start rest with
        | some (some s, rest) => (.string s, some rest)
        | some (none, rest) => (.unreadable, some rest)
        | none => (.broken, none)
      else if c = 'n' then readWord ['u', 'l', 'l'] .null rest
      else if c = 't' then readWord ['r', 'u', 'e'] (.bool true) rest
      else if c = 'f' then readWord ['a', 'l', 's', 'e'] (.bool false) rest
      else
        match readNumber? (c :: rest) with
        | some (j, rest) => (j, some rest)
        | none => (.broken, none)

/-- Reads the items of an array up to its closing bracket. -/
def readItems : Nat → List Char → List Json × Option (List Char)
  | 0, _ => ([.broken], none)
  | steps + 1, cs =>
    match readValue steps cs with
    | (j, none) => ([j], none)
    | (j, some rest) =>
      match skipSpace rest with
      | ',' :: rest =>
        let (items, rest) := readItems steps rest
        (j :: items, rest)
      | ']' :: rest => ([j], some rest)
      | _ => ([j, .broken], none)

/-- Reads the fields of an object up to its closing brace. -/
def readFields : Nat → List Char → List (String × Json) × Option (List Char)
  | 0, _ => ([("", .broken)], none)
  | steps + 1, cs =>
    match skipSpace cs with
    | '"' :: rest =>
      match readBody? .start rest with
      | some (some name, rest) =>
        match skipSpace rest with
        | ':' :: rest =>
          match readValue steps rest with
          | (j, none) => ([(name, j)], none)
          | (j, some rest) =>
            match skipSpace rest with
            | ',' :: rest =>
              let (fields, rest) := readFields steps rest
              ((name, j) :: fields, rest)
            | '\x7d' :: rest => ([(name, j)], some rest)
            | _ => ([(name, j), ("", .broken)], none)
        | _ => ([(name, .broken)], none)
      | _ => ([("", .broken)], none)
    | _ => ([("", .broken)], none)

end

/-- Reads one value from the front of a text and says what stands behind it. -/
def read (text : String) : Json × Option (List Char) :=
  let cs := text.toList
  readValue (2 * cs.length + 2) cs

end PublicationIndicator.Json
