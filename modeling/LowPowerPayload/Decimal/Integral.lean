import LowPowerPayload.Decimal.Shortest
/-!
# Integers inside doubles

`exactInt? x` is the integer a double equals, if it equals one; `truncate? x` drops the
fraction of a finite double toward zero. Both read the exact parts of the double, so a double
compares with an integer by value and never through a rounded conversion.
-/

namespace LowPowerPayload.Decimal

/-- The magnitude `mantissa · 2^exponent` cut toward zero. -/
def Binary.floor (b : Binary) : Nat :=
  if 0 ≤ b.exponent then b.mantissa * Nat.pow 2 b.exponent.toNat
  else b.mantissa / Nat.pow 2 (-b.exponent).toNat

/-- Whether the magnitude `mantissa · 2^exponent` is a whole number. -/
def Binary.isWhole (b : Binary) : Bool :=
  if 0 ≤ b.exponent then true else b.mantissa % Nat.pow 2 (-b.exponent).toNat == 0

/-- Gives a sign to a natural number. -/
def signed (negative : Bool) (n : Nat) : Int := if negative then -(n : Int) else n

/-- The integer a double equals, if it equals one. -/
def exactInt? (x : Float) : Option Int :=
  match Parts.ofFloat x with
  | .zero _ => some 0
  | .finite negative b => if b.isWhole then some (signed negative b.floor) else none
  | _ => none

/-- A finite double cut toward zero; `none` for infinities and NaN. -/
def truncate? (x : Float) : Option Int :=
  match Parts.ofFloat x with
  | .zero _ => some 0
  | .finite negative b => some (signed negative b.floor)
  | _ => none

end LowPowerPayload.Decimal
