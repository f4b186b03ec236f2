/-!
# PublicationIndicator.Text.Digits — numbers written with ASCII digits

The digits `0` to `9`, the number that a run of them stands for, a number written with zeros in front
or with a point, and the digits of hexadecimal numbers.
-/

namespace PublicationIndicator.Text

/-- Is it one of `0` to `9`? -/
def isDigit (c : Char) : Bool := '0' ≤ c ∧ c ≤ '9'

/-- The value of a digit. -/
def digitValue (c : Char) : Nat := c.toNat - '0'.toNat

/-- The number that a run of digits stands for. -/
def digitsValue (ds : List Char) : Nat := ds.foldl (fun n c => 10 * n + digitValue c) 0

/-- The digits of `n`, with zeros in front up to `width` digits. -/
def padded (width n : Nat) : List Char :=
  let digits := Nat.toDigits 10 n
  List.replicate (width - digits.length) '0' ++ digits

/-- The digits of `n / 10 ^ scale` with a point, unless there is nothing behind it. -/
def positional (n scale : Nat) : List Char :=
  let digits := padded (scale + 1) n
  digits.take (digits.length - scale) ++
    (if scale = 0 then [] else '.' :: digits.drop (digits.length - scale))

/-- The number that a text of digits stands for; a plus sign may stand in front. -/
def natOfText? (s : String) : Option Nat :=
  let ds :=
    match s.toList with
    | '+' :: ds => ds
    | ds => ds
  if ds ≠ [] ∧ ds.all isDigit then some (digitsValue ds) else none

/-! ### Hexadecimal -/

/-- The value of a hexadecimal digit. -/
def hexValue? (c : Char) : Option Nat :=
  if isDigit c then some (digitValue c)
  else if 'a' ≤ c ∧ c ≤ 'f' then some (c.toNat - 'a'.toNat + 10)
  else if 'A' ≤ c ∧ c ≤ 'F' then some (c.toNat - 'A'.toNat + 10)
  else none

/-- The hexadecimal digit of a number below 16, in lower case. -/
def hexDigit (n : Nat) : Char :=
  if n < 10 then Char.ofNat ('0'.toNat + n) else Char.ofNat ('a'.toNat + n - 10)

end PublicationIndicator.Text
