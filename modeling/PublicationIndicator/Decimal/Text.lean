import PublicationIndicator.Decimal.Basic
import PublicationIndicator.Text.Digits

/-!
# PublicationIndicator.Decimal.Text — decimals as text

A decimal is written with all its digits: `Decimal.text` shows as many behind the point as the scale
says.  `Decimal.ofText?` reads a sign, digits and a point, and rounds the digits that do not fit;
`Decimal.ofScientificText?` reads such a decimal in front of an exponent.
-/

namespace PublicationIndicator.Decimal

open Text

/-! ### Writing -/

/-- All digits of the decimal, with its sign and, where there is a scale, a point. -/
def text (d : Decimal) : String :=
  String.ofList ((if d.coefficient < 0 then ['-'] else []) ++
    positional d.coefficient.natAbs d.scale)

instance : ToString Decimal := ⟨text⟩

/-! ### Reading -/

/-- What the digit after the last that fits does to the digits read: from five on it raises them.
What stands behind it is not looked at. -/
def roundOff? (digits scale : Nat) (next : Char) : Option (Nat × Nat) := do
  let d ← if next = '.' ∨ next = '_' then some 0 else if isDigit next then some (digitValue next) else none
  if d < 5 then some (digits, scale)
  else if digits + 1 < capacity then some (digits + 1, scale)
  else if scale = 0 then none
  else some ((digits + 1 + 4) / 10, scale - 1)

/-- Reads digits and at most one point: `digits` and `scale` are what was read so far, `point` tells
that the point was read and `seen` that a digit was.  The result is the digits and the scale.
Between digits an underscore is passed over, unless no digit more would fit. -/
def scan? (digits scale : Nat) (point seen : Bool) : List Char → Option (Nat × Nat)
  | [] => if seen then some (digits, scale) else none
  | c :: rest =>
    if 28 ≤ scale then roundOff? digits scale c
    else if c = '_' ∧ seen then scan? digits scale point seen rest
    else if c = '.' ∧ ¬ point then scan? digits scale true seen rest
    else if ¬ isDigit c then none
    else if digits * 10 + digitValue c < capacity then
      scan? (digits * 10 + digitValue c) (if point then scale + 1 else scale) point true rest
    else if point then roundOff? digits scale c
    else none

/-- Reads a decimal without an exponent: a sign, digits with a point among them; more digits behind the
point than fit are rounded off, more before it are refused. -/
def ofText? (s : String) : Option Decimal :=
  match s.toList with
  | '-' :: cs => (scan? 0 0 false false cs).bind fun r => ofParts? (-r.1) r.2
  | '+' :: cs => (scan? 0 0 false false cs).bind fun r => ofParts? r.1 r.2
  | cs => (scan? 0 0 false false cs).bind fun r => ofParts? r.1 r.2

/-- Reads a decimal in front of an exponent.  A negative one moves the point to the left for as far as
there may be digits behind it; a positive one uses up the digits behind the point and then adds zeros,
28 at most. -/
def ofScientificText? (s : String) : Option Decimal := do
  let cs := s.toList
  let base := cs.takeWhile fun c => c ≠ 'e' ∧ c ≠ 'E'
  let d ← ofText? (String.ofList base)
  match cs.drop base.length with
  | [] => none
  | _ :: '-' :: ds =>
    let n ← natOfText? (String.ofList ds)
    ofParts? d.coefficient (d.scale + n)
  | _ :: ds =>
    let n ← natOfText? (String.ofList ds)
    if n ≤ d.scale then ofParts? d.coefficient (d.scale - n)
    else if n ≤ 28 then ofParts? (d.coefficient * Nat.pow 10 (n - d.scale)) 0
    else none

end PublicationIndicator.Decimal
