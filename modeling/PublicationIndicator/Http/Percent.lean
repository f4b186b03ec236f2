import PublicationIndicator.Text.Digits

/-!
# PublicationIndicator.Http.Percent — text in the segments of a path

A percent sign and two hexadecimal digits stand for a byte of UTF-8.  `Percent.decode?` reads a
segment; a percent sign without two digits stands for itself.  `Percent.encode` writes a text as one
segment, with every byte but letters, digits and four marks as a percent sign and digits.
-/

namespace PublicationIndicator.Percent

open Text

/-! ### Reading -/

/-- The byte with these two hexadecimal digits. -/
def byte? (high low : UInt8) : Option UInt8 := do
  let h ← hexValue? (Char.ofNat high.toNat)
  let l ← hexValue? (Char.ofNat low.toNat)
  some (UInt8.ofNat (16 * h + l))

/-- The bytes that the bytes of a segment stand for. -/
def decodeBytes : List UInt8 → List UInt8
  | [] => []
  | 37 :: high :: low :: rest =>
    match byte? high low with
    | some b => b :: decodeBytes rest
    | none => 37 :: decodeBytes (high :: low :: rest)
  | b :: rest => b :: decodeBytes rest

/-- The text that a segment stands for, unless its bytes are no UTF-8. -/
def decode? (segment : String) : Option String :=
  String.fromUTF8? (decodeBytes segment.toUTF8.data.toList).toByteArray

/-! ### Writing -/

/-- Is the byte a letter, a digit or one of the marks that stand for themselves? -/
def isPlain (b : UInt8) : Bool :=
  let c := Char.ofNat b.toNat
  isDigit c || ('a' ≤ c && c ≤ 'z') || ('A' ≤ c && c ≤ 'Z') || c == '-' || c == '.' || c == '_' ||
    c == '~'

/-- A byte in a segment. -/
def encodeByte (b : UInt8) : List Char :=
  if isPlain b then [Char.ofNat b.toNat]
  else ['%', hexDigit (b.toNat / 16), hexDigit (b.toNat % 16)]

/-- A text as one segment. -/
def encode (s : String) : String := String.ofList (s.toUTF8.data.toList.flatMap encodeByte)

end PublicationIndicator.Percent
