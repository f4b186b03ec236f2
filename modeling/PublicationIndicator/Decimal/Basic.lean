/-!
# PublicationIndicator.Decimal.Basic — decimal numbers of bounded size

A `Decimal` is an integer coefficient of 96 bits divided by a power of ten up to the 28th.  The
same number has several forms (`1.0` and `1.0000`): `==` compares the numbers, `=` the forms.
Arithmetic works on the exact result and answers with the decimal nearest to it (`nearest?`).
-/

namespace PublicationIndicator

/-- The first number that does not fit into 96 bits. -/
def Decimal.capacity : Nat := 79228162514264337593543950336

/-- A decimal number `coefficient / 10 ^ scale`. -/
structure Decimal where
  /-- All digits, with the sign. -/
  coefficient : Int
  /-- How many of the digits stand behind the point. -/
  scale : Nat
  /-- The digits fit into 96 bits. -/
  coefficient_lt : coefficient.natAbs < Decimal.capacity
  /-- No more than 28 digits stand behind the point. -/
  scale_le : scale ≤ 28

namespace Decimal

theorem ext {a b : Decimal} (hc : a.coefficient = b.coefficient) (hs : a.scale = b.scale) :
    a = b := by
  cases a; cases b; cases hc; cases hs; rfl

/-- The number that a decimal stands for. -/
def toRat (d : Decimal) : Rat := mkRat d.coefficient (Nat.pow 10 d.scale)

/-- Two decimals are the same number; how many digits they show does not matter. -/
instance : BEq Decimal where
  beq a b := a.coefficient * Nat.pow 10 b.scale == b.coefficient * Nat.pow 10 a.scale

theorem beq_iff {a b : Decimal} :
    (a == b) = true ↔ a.coefficient * Nat.pow 10 b.scale = b.coefficient * Nat.pow 10 a.scale := by
  change (a.coefficient * Nat.pow 10 b.scale == b.coefficient * Nat.pow 10 a.scale) = true ↔ _
  exact beq_iff_eq

instance : ReflBEq Decimal where
  rfl := beq_iff.2 rfl

/-- `coefficient / 10 ^ scale`, if it is within bounds. -/
def ofParts? (coefficient : Int) (scale : Nat) : Option Decimal :=
  if h : coefficient.natAbs < capacity ∧ scale ≤ 28 then some ⟨coefficient, scale, h.1, h.2⟩ else none

/-- The whole number `n`, if it is within bounds. -/
def ofInt? (n : Int) : Option Decimal := ofParts? n 0

/-- A small whole number. -/
def ofByte (n : UInt8) : Decimal :=
  ⟨n.toNat, 0, by rw [capacity]; have := n.toNat_lt; omega, by omega⟩

/-- A small number of tenths. -/
def ofTenths (n : UInt8) : Decimal :=
  ⟨n.toNat, 1, by rw [capacity]; have := n.toNat_lt; omega, by omega⟩

/-- Nothing. -/
def zero : Decimal := ofByte 0

/-- One. -/
def one : Decimal := ofByte 1

/-- Is it nothing, at whatever scale? -/
def isZero (d : Decimal) : Bool := d.coefficient == 0

/-- Is it below zero? -/
def isNegative (d : Decimal) : Bool := d.coefficient < 0

/-! ### The nearest decimal -/

/-- `n / d` rounded to a whole number; a tie goes to the even one. -/
def roundHalfEven (n d : Nat) : Nat :=
  if d < 2 * (n % d) ∨ (2 * (n % d) = d ∧ n / d % 2 = 1) then n / d + 1 else n / d

/-- `n / d` rounded to a whole number; a tie goes up. -/
def roundHalfUp (n d : Nat) : Nat := (2 * n + d) / (2 * d)

/-- `n / d` rounded to `scale` digits behind the point, if that fits. -/
def nearestAt? (n : Int) (d scale : Nat) : Option Decimal :=
  ofParts? (n.sign * roundHalfEven (n.natAbs * Nat.pow 10 scale) d) scale

/-- `n / d` rounded to as many digits behind the point as fit, at most `scale`. -/
def nearestUpTo? (n : Int) (d : Nat) : (scale : Nat) → Option Decimal
  | 0 => nearestAt? n d 0
  | scale + 1 =>
    match nearestAt? n d (scale + 1) with
    | some r => some r
    | none => nearestUpTo? n d scale

/-- The decimal nearest to `n / d`; a tie goes to the even digit.  None is near to what is too
large, or to a quotient by zero. -/
def nearest? (n : Int) (d : Nat) : Option Decimal :=
  if d = 0 then none else nearestUpTo? n d 28

/-! ### Arithmetic -/

/-- The sum, rounded where it does not fit. -/
def add? (a b : Decimal) : Option Decimal :=
  nearest? (a.coefficient * Nat.pow 10 b.scale + b.coefficient * Nat.pow 10 a.scale) (Nat.pow 10 (a.scale + b.scale))

/-- The product, rounded where it does not fit. -/
def mul? (a b : Decimal) : Option Decimal :=
  nearest? (a.coefficient * b.coefficient) (Nat.pow 10 (a.scale + b.scale))

/-- The quotient, rounded where it does not fit; there is none by zero. -/
def div? (a b : Decimal) : Option Decimal :=
  nearest? (b.coefficient.sign * a.coefficient * Nat.pow 10 b.scale) (b.coefficient.natAbs * Nat.pow 10 a.scale)

/-- The sum of a list, from left to right. -/
def sum? (ds : List Decimal) : Option Decimal :=
  ds.foldlM add? zero

end Decimal

end PublicationIndicator
