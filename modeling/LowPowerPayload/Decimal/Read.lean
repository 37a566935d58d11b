import LowPowerPayload.Text.Blank
import LowPowerPayload.Text.DecimalDigit
/-!
# Reading a decimal as a double

`nearest num den` is the double nearest to the positive ratio `num / den`, a tie going to the
double with an even mantissa, and infinity past the largest double. It is computed on the exact
ratio, so every reader built on it (integers, decimal text, exponent notation) rounds once and
correctly.
-/

namespace LowPowerPayload.Decimal

/-- The quotient `a / b` rounded to the nearest integer, a tie going to the even one. -/
def roundHalfEven (a b : Nat) : Nat :=
  let q := a / b
  let r := a % b
  if 2 * r > b then q + 1
  else if 2 * r < b then q
  else if q % 2 = 0 then q else q + 1

/-- The exponent `e` with `2^e ≤ num / den < 2^(e+1)`, for positive `num` and `den`. -/
def binaryExponent (num den : Nat) : Int :=
  let e : Int := (Nat.log2 num : Int) - (Nat.log2 den : Int)
  let holds : Bool :=
    if 0 ≤ e then decide (num ≥ den * Nat.pow 2 e.toNat)
    else decide (num * Nat.pow 2 (-e).toNat ≥ den)
  if holds then e else e - 1

/-- The bits of the double `mantissa · 2^exponent` once the mantissa has at most 53 bits and
the exponent is at least -1074; `none` past the largest double. -/
def encodeBits (mantissa : Nat) (exponent : Int) : Option Nat :=
  let (m, q) :=
    if mantissa = Nat.pow 2 53 then (Nat.pow 2 52, exponent + 1) else (mantissa, exponent)
  if q ≥ 972 then none
  else if m < Nat.pow 2 52 then some m
  else some ((q + 1075).toNat * Nat.pow 2 52 + (m - Nat.pow 2 52))

/-- Positive infinity. -/
def infinity : Float := Float.ofBits 0x7FF0000000000000

/-- A value that is not a number. -/
def notANumber : Float := Float.ofBits 0x7FF8000000000000

/-- The double nearest to `num / den`; zero for a zero numerator. -/
def nearest (num den : Nat) : Float :=
  if num = 0 ∨ den = 0 then 0.0
  else
    let q : Int := max (binaryExponent num den - 52) (-1074)
    let m :=
      if 0 ≤ q then roundHalfEven num (den * Nat.pow 2 q.toNat)
      else roundHalfEven (num * Nat.pow 2 (-q).toNat) den
    match encodeBits m q with
    | some bits => Float.ofBits (UInt64.ofNat bits)
    | none => infinity

/-- The double nearest to `±digits · 10^exponent`. A value below `10^-330` is below half the
least positive double and rounds to zero; one of `10^309` or more is past the largest double;
only between the two is the exact ratio formed. -/
def ofDecimal (negative : Bool) (digits : Nat) (exponent : Int) : Float :=
  let magnitude : Int := (Nat.toDigits 10 digits).length + exponent
  let x :=
    if digits = 0 ∨ magnitude ≤ -330 then 0.0
    else if 310 ≤ magnitude then infinity
    else if 0 ≤ exponent then nearest (digits * Nat.pow 10 exponent.toNat) 1
    else nearest digits (Nat.pow 10 (-exponent).toNat)
  if negative then -x else x

/-- The double nearest to an integer. -/
def ofInt (n : Int) : Float := ofDecimal (n < 0) n.natAbs 0

/-- Whether the double nearest to `n` is finite, that is whether `n` has a reading as a double. -/
def fitsDouble (n : Int) : Bool := !(ofInt n).isInf

/-- The value of a run of decimal digits in which single underscores may stand between two
digits. -/
def digitRun (cs : List Char) : Option Nat :=
  go 0 false cs
where
  /-- `afterDigit` tells whether the last character read was a digit. -/
  go (acc : Nat) (afterDigit : Bool) : List Char → Option Nat
    | [] => if afterDigit then some acc else none
    | c :: rest =>
      if c.isDigit then go (10 * acc + (c.toNat - 48)) true rest
      else if c = '_' ∧ afterDigit then
        match rest with
        | d :: _ => if d.isDigit then go acc false rest else none
        | [] => none
      else none

/-- The number of digits in a run of digits and underscores. -/
def digitCount (cs : List Char) : Nat := (cs.filter Char.isDigit).length

/-- A decimal `int[.frac][e[±]exp]` or `.frac[e[±]exp]` as digits and a power of ten. -/
def readUnsigned (cs : List Char) : Option (Nat × Int) :=
  let isMark (c : Char) : Bool := c == 'e' || c == 'E'
  let mant := cs.takeWhile (fun c => !isMark c)
  let expPart := cs.dropWhile (fun c => !isMark c)
  let whole := mant.takeWhile (· != '.')
  let hasPoint := mant.contains '.'
  let frac := (mant.dropWhile (· != '.')).drop 1
  let wholeValue : Option Nat := if whole.isEmpty then some 0 else digitRun whole
  let fracValue : Option Nat := if frac.isEmpty then some 0 else digitRun frac
  let expValue : Option Int :=
    match expPart with
    | [] => some 0
    | _ :: '-' :: ds => (digitRun ds).map (fun v => -(v : Int))
    | _ :: '+' :: ds => (digitRun ds).map (fun v => (v : Int))
    | _ :: ds => (digitRun ds).map (fun v => (v : Int))
  if whole.isEmpty ∧ frac.isEmpty then none
  else if (whole.isEmpty ∧ !hasPoint) then none
  else
    match wholeValue, fracValue, expValue with
    | some w, some f, some e =>
      let fd := digitCount frac
      some (w * Nat.pow 10 fd + f, e - fd)
    | _, _, _ => none

/-- A text without its underscores, when each stands between two digits. -/
def dropUnderscores (cs : List Char) : Option (List Char) :=
  go ' ' cs
where
  /-- Reads on after the character `prev`. -/
  go (prev : Char) : List Char → Option (List Char)
    | [] => if prev == '_' then none else some []
    | c :: rest =>
      if c == '_' then (if prev.isDigit then go c rest else none)
      else if prev == '_' && !c.isDigit then none
      else (go c rest).map (c :: ·)

/-- Reads a number as a general-purpose float parser does. The text is brought to ASCII by
`asciiNumeral`; underscores may stand only between two digits and are dropped; ASCII blanks
may stand around the number; then an optional sign, and `inf`, `infinity` or `nan` in any
case, or a decimal with optional exponent. -/
def parseFloat? (s : String) : Option Float := do
  let cs ← dropUnderscores (Text.asciiNumeral s).toList
  let cs := Text.trimAsciiSpace cs
  let (negative, body) : Bool × List Char :=
    match cs with
    | '-' :: rest => (true, rest)
    | '+' :: rest => (false, rest)
    | _ => (false, cs)
  let word := String.ofList (body.map Char.toLower)
  if word == "inf" || word == "infinity" then
    some (if negative then -infinity else infinity)
  else if word == "nan" then some notANumber
  else (readUnsigned body).map (fun (m, e) => ofDecimal negative m e)

end LowPowerPayload.Decimal
