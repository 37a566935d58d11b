/-!
# Shortest decimal digits of a double

A finite positive double is `m · 2^q`. The reals that read back as it form an interval around
it whose ends are the midpoints to the two neighbouring doubles; an end belongs to the interval
exactly when `m` is even, since a tie reads back to the even neighbour. `Binary.shortest` gives
the decimal `d · 10^k` with the fewest significant digits inside that interval, the one nearest
to the value when a digit count has two, and the one with an even last digit on an exact tie.

All of it is exact `Nat` arithmetic on the parts of the double, so nothing depends on how the
machine rounds.
-/

namespace LowPowerPayload.Decimal

/-- A positive double as exact binary parts: the value is `mantissa · 2^exponent`. When
`narrowBelow` holds, the next lower double is half as far away as the next higher one (the
mantissa is a power of two above the smallest binade). -/
structure Binary where
  mantissa : Nat
  exponent : Int
  narrowBelow : Bool
  deriving Repr, DecidableEq

/-- A decimal `digits · 10^exponent`. -/
structure Scientific where
  digits : Nat
  exponent : Int
  deriving Repr, DecidableEq

/-- A nonnegative rational as numerator and denominator; only ever compared by cross
multiplication. -/
private structure Ratio where
  num : Nat
  den : Nat

/-- `2^e` as a ratio, for an exponent of either sign. -/
private def Ratio.twoPow (e : Int) : Ratio :=
  if 0 ≤ e then ⟨Nat.pow 2 e.toNat, 1⟩ else ⟨1, Nat.pow 2 (-e).toNat⟩

/-- `10^e` as a ratio, for an exponent of either sign. -/
private def Ratio.tenPow (e : Int) : Ratio :=
  if 0 ≤ e then ⟨Nat.pow 10 e.toNat, 1⟩ else ⟨1, Nat.pow 10 (-e).toNat⟩

/-- The number of decimal digits of `n`, with `0` taking one. -/
def decimalLength (n : Nat) : Nat := (Nat.toDigits 10 n).length

/-- The exponent `e` with `10^e ≤ num / den < 10^(e+1)`, for positive `num` and `den`. -/
private def decimalExponent (r : Ratio) : Int :=
  let e : Int := (decimalLength r.num : Int) - (decimalLength r.den : Int)
  let t := Ratio.tenPow e
  -- `num / den ≥ 10^e` iff `num · t.den ≥ t.num · den`
  if r.num * t.den ≥ t.num * r.den then e else e - 1

/-- The value of the double in units of a quarter of its own binary unit, and the two ends of
its rounding interval in the same unit. -/
private def Binary.quarterUnits (b : Binary) : Nat × Nat × Nat :=
  let x := 4 * b.mantissa
  let low := if b.narrowBelow then x - 1 else x - 2
  (low, x, x + 2)

/-- The best candidate with `n` significant digits, if one reads back. -/
private def Binary.candidate (b : Binary) (e10 : Int) (n : Nat) : Option Scientific :=
  let k : Int := e10 + 1 - n
  let u := Ratio.twoPow (b.exponent - 2)
  let t := Ratio.tenPow k
  let (low, x, high) := b.quarterUnits
  -- every quantity below is a value times `u.den · t.den`
  let xs := x * u.num * t.den
  let scale := t.num * u.den
  let lo := xs / scale
  let inside (d : Nat) : Bool :=
    let ds := d * scale
    let lows := low * u.num * t.den
    let highs := high * u.num * t.den
    if b.mantissa % 2 = 0 then lows ≤ ds && ds ≤ highs else lows < ds && ds < highs
  if lo * scale = xs then some ⟨lo, k⟩
  else
    let hi := lo + 1
    match inside lo, inside hi with
    | true, true =>
      let below := xs - lo * scale
      let above := hi * scale - xs
      if below < above then some ⟨lo, k⟩
      else if above < below then some ⟨hi, k⟩
      else if lo % 2 = 0 then some ⟨lo, k⟩ else some ⟨hi, k⟩
    | true, false => some ⟨lo, k⟩
    | false, true => some ⟨hi, k⟩
    | false, false => none

/-- Drops trailing zero digits, raising the exponent to match. -/
def Scientific.trim (s : Scientific) : Scientific :=
  go s.digits s.exponent (decimalLength s.digits)
where
  /-- At most `fuel` zeros are dropped; the digit count bounds them. -/
  go (d : Nat) (e : Int) : Nat → Scientific
    | 0 => ⟨d, e⟩
    | fuel + 1 => if d ≠ 0 ∧ d % 10 = 0 then go (d / 10) (e + 1) fuel else ⟨d, e⟩

/-- The shortest decimal that reads back as the double, trimmed of trailing zeros. Seventeen
significant digits always suffice for a double. -/
def Binary.shortest (b : Binary) : Scientific :=
  let u := Ratio.twoPow b.exponent
  let e10 := decimalExponent ⟨b.mantissa * u.num, u.den⟩
  let found := (List.range' 1 17).findSome? (b.candidate e10)
  (found.getD ⟨b.mantissa, 0⟩).trim

/-- A double's sign and magnitude as read from its bits. -/
inductive Parts where
  | zero (negative : Bool)
  | finite (negative : Bool) (b : Binary)
  | infinite (negative : Bool)
  | nan
  deriving Repr, DecidableEq

/-- Splits the 64 bits of a double into sign, exponent field and fraction field. -/
def Parts.ofBits (bits : UInt64) : Parts :=
  let n := bits.toNat
  let negative := n / Nat.pow 2 63 % 2 = 1
  let field : Nat := n / Nat.pow 2 52 % Nat.pow 2 11
  let fraction : Nat := n % Nat.pow 2 52
  if field = 2047 then
    if fraction = 0 then .infinite negative else .nan
  else if field = 0 then
    if fraction = 0 then .zero negative
    else .finite negative ⟨fraction, -1074, false⟩
  else
    .finite negative ⟨fraction + Nat.pow 2 52, (field : Int) - 1075, fraction = 0 ∧ field > 1⟩

/-- The parts of a double. -/
def Parts.ofFloat (x : Float) : Parts := Parts.ofBits x.toBits

end LowPowerPayload.Decimal
