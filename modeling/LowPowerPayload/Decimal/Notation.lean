import LowPowerPayload.Decimal.Shortest
/-!
# Writing a double as text

`Notation` holds the decisions of one number format: from which decimal exponent on a value is
written with an exponent mark, how that exponent is spelled, whether an integral value keeps a
`.0`, and the words for the values that are not numbers. `Notation.render` writes the shortest
digits of `Binary.shortest` in that layout.
-/

namespace LowPowerPayload.Decimal

/-- The layout decisions of a number format. -/
structure Notation where
  /-- Exponents of the leading digit below this are written with an exponent mark. -/
  positionalFrom : Int
  /-- Exponents of the leading digit at or above this are written with an exponent mark. -/
  positionalBelow : Int
  /-- The exponent mark. -/
  mark : String
  /-- Whether a positive exponent carries a `+`. -/
  plusSign : Bool
  /-- The least number of exponent digits; shorter ones get leading zeros. -/
  exponentDigits : Nat
  /-- Whether an integral value written positionally ends in `.0`. -/
  pointZero : Bool
  /-- The word for a value that is not a number. -/
  nanWord : String
  /-- The word for positive infinity; negative infinity is it with a minus sign. -/
  infinityWord : String

/-- The layout of a general-purpose value printer: positional for leading-digit exponents from
-4 up to 15, else `1e-05` and `1e+16`; `65.0` keeps its point; `nan` and `inf`. -/
def Notation.general : Notation :=
  ⟨-4, 16, "e", true, 2, true, "nan", "inf"⟩

/-- The layout of a JSON writer that admits the non-finite words `NaN` and `Infinity`. -/
def Notation.json : Notation :=
  { Notation.general with nanWord := "NaN", infinityWord := "Infinity" }

/-- The decimal digits of `n` as text. -/
def digitText (n : Nat) : String := String.ofList (Nat.toDigits 10 n)

/-- `n` zeros. -/
def zeros (n : Nat) : String := String.ofList (List.replicate n '0')

/-- The exponent field: mark, sign, and at least `exponentDigits` digits. -/
def Notation.exponentText (f : Notation) (e : Int) : String :=
  let body := digitText e.natAbs
  let padded := zeros (f.exponentDigits - body.length) ++ body
  let sign := if e < 0 then "-" else if f.plusSign then "+" else ""
  f.mark ++ sign ++ padded

/-- Digits `d` (no trailing zeros) with leading-digit exponent `e`, written positionally. -/
def Notation.positional (f : Notation) (ds : String) (e : Int) : String :=
  let n := ds.length
  if e < 0 then
    "0." ++ zeros (e.natAbs - 1) ++ ds
  else
    let whole := e.toNat + 1
    if whole ≥ n then
      ds ++ zeros (whole - n) ++ (if f.pointZero then ".0" else "")
    else
      String.ofList (ds.toList.take whole) ++ "." ++ String.ofList (ds.toList.drop whole)

/-- Digits `ds` (no trailing zeros) with leading-digit exponent `e`, written with a mark. -/
def Notation.exponential (f : Notation) (ds : String) (e : Int) : String :=
  let mantissa :=
    match ds.toList with
    | [] => "0"
    | [c] => String.singleton c
    | c :: rest => String.singleton c ++ "." ++ String.ofList rest
  mantissa ++ f.exponentText e

/-- A finite nonzero magnitude in this layout. -/
def Notation.magnitude (f : Notation) (b : Binary) : String :=
  let s := b.shortest
  let ds := digitText s.digits
  let e := s.exponent + ds.length - 1
  if f.positionalFrom ≤ e ∧ e < f.positionalBelow then f.positional ds e
  else f.exponential ds e

/-- Writes a double in this layout. -/
def Notation.render (f : Notation) (x : Float) : String :=
  let sign (negative : Bool) := if negative then "-" else ""
  match Parts.ofFloat x with
  | .zero negative => sign negative ++ (if f.pointZero then "0.0" else "0")
  | .finite negative b => sign negative ++ f.magnitude b
  | .infinite negative => sign negative ++ f.infinityWord
  | .nan => f.nanWord

end LowPowerPayload.Decimal
