import PublicationIndicator.Decimal.Basic
import PublicationIndicator.Text.Digits

/-!
# PublicationIndicator.Decimal.Binary — numbers of binary64

A number of a JSON text that is no whole number of 64 bits is a number of binary64.  `ofDigits?` finds
it from its digits and its power of ten, and `text` writes the fewest digits that only this number is
nearest to, so that `0.1` stays `0.1`.
-/

namespace PublicationIndicator

/-- A number `significand * 2 ^ exponent` of binary64 without its sign: the significand has 53 binary
digits, or fewer where the exponent is the least one. -/
structure Binary64 where
  significand : Nat
  exponent : Int
deriving DecidableEq

namespace Binary64

open Text

/-- The least significand with 53 binary digits. -/
def fullSignificand : Nat := 1 <<< 52

/-- The least exponent. -/
def leastExponent : Int := -1074

/-- The greatest exponent. -/
def greatestExponent : Int := 971

/-- The number as a fraction: its numerator. -/
def numerator (x : Binary64) : Nat := x.significand <<< x.exponent.toNat

/-- The number as a fraction: its denominator. -/
def denominator (x : Binary64) : Nat := 1 <<< (-x.exponent).toNat

/-! ### Rounding -/

/-- The exponent at which `n / d` has 53 binary digits before the point, or the least one. -/
def exponentFor (n d : Nat) : Int :=
  let e : Int := (n.log2 : Int) - d.log2 - 53
  let whole := n <<< (-e).toNat / d <<< e.toNat
  max leastExponent (if whole < 2 * fullSignificand then e else e + 1)

/-- The number nearest to `n / d`; a tie goes to the even significand.  None is near to what is too
large. -/
def nearest? (n d : Nat) : Option Binary64 :=
  let e := exponentFor n d
  let m := Decimal.roundHalfEven (n <<< (-e).toNat) (d <<< e.toNat)
  let x : Binary64 := if m = 2 * fullSignificand then ⟨fullSignificand, e + 1⟩ else ⟨m, e⟩
  if x.exponent ≤ greatestExponent then some x else none

/-- The product, rounded. -/
def mul? (x y : Binary64) : Option Binary64 :=
  nearest? (x.numerator * y.numerator) (x.denominator * y.denominator)

/-- The quotient, rounded. -/
def div? (x y : Binary64) : Option Binary64 :=
  nearest? (x.numerator * y.denominator) (x.denominator * y.numerator)

/-! ### Reading -/

/-- Adds digits to a number for as long as it fits into 64 bits; the result is the number and the
digits that are left. -/
def pushDigits (n : Nat) : List Char → Nat × List Char
  | [] => (n, [])
  | c :: rest =>
    if 10 * n + digitValue c < 18446744073709551616 then pushDigits (10 * n + digitValue c) rest
    else (n, c :: rest)

/-- `n * 10 ^ power`, with `n` and the power of ten rounded first.  A power below the 308th negative
one is divided by in two steps. -/
def scaled? (n : Nat) (power : Int) : Option Binary64 := do
  let x ← nearest? n 1
  if x.significand = 0 then some x
  else if 308 < power then none
  else if 0 ≤ power then x.mul? (← nearest? (Nat.pow 10 power.toNat) 1)
  else if -308 ≤ power then x.div? (← nearest? (Nat.pow 10 (-power).toNat) 1)
  else
    let x ← x.div? (← nearest? (Nat.pow 10 308) 1)
    x.div? (← nearest? (Nat.pow 10 (min 308 (-power - 308).toNat)) 1)

/-- The number with these digits before and behind the point, times a power of ten.  Of the digits
only those in front count that fit into 64 bits. -/
def ofDigits? (whole fraction : List Char) (power : Int) : Option Binary64 :=
  let (n, skipped) := pushDigits 0 whole
  let (n, unread) := pushDigits n fraction
  scaled? n (power + skipped.length - (fraction.length - unread.length))

/-! ### Writing -/

/-- Is `x` the number nearest to `c` units, where `x` itself makes `n / d` units?  What `x` is nearest to
reaches half way to its neighbours; the ends belong to it if the significand is even, and below a power
of two the neighbour is half as far away. -/
def readsBack (x : Binary64) (c n d : Nat) : Bool :=
  let m := 4 * x.significand
  let below := if x.significand = fullSignificand ∧ leastExponent < x.exponent then 1 else 2
  let point := c * d * m
  if x.significand % 2 = 0 then n * (m - below) ≤ point ∧ point ≤ n * (m + 2)
  else n * (m - below) < point ∧ point < n * (m + 2)

/-- How many units of `10 ^ grid` come nearest to `x`, if `x` is the number nearest to them; a tie goes
up. -/
def pointAt? (x : Binary64) (grid : Int) : Option Nat :=
  let n := x.numerator * Nat.pow 10 (-grid).toNat
  let d := x.denominator * Nat.pow 10 grid.toNat
  let lower := n / d
  let nearer := if 2 * n < (2 * lower + 1) * d then lower else lower + 1
  let other := if nearer = lower then lower + 1 else lower
  if x.readsBack nearer n d then some nearer
  else if x.readsBack other n d then some other
  else none

/-- The number with the fewest digits that it is read back from, without an exponent. -/
def text (x : Binary64) : String :=
  let shortest := (List.range 700).findSome? fun (i : Nat) =>
    let grid : Int := 309 - i
    (x.pointAt? grid).map fun c => (c, grid)
  match shortest with
  | some (c, grid) => String.ofList (positional (c * Nat.pow 10 grid.toNat) (-grid).toNat)
  | none => "0"

end Binary64

end PublicationIndicator
