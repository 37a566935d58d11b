import LowPowerPayload.Text.Blank
import LowPowerPayload.Text.DecimalDigit
import LowPowerPayload.Text.Quote
/-!
# Integer numerals

`readInt base text` reads an integer numeral in a base from 2 to 36, or in base 0, where the
numeral's own prefix chooses the base. The text is first brought to ASCII by `asciiNumeral`;
then, in order:

* ASCII blanks may lead, then one sign;
* in base 0, `0x`, `0o` and `0b` (in either case) choose bases 16, 8 and 2, any other numeral
  is decimal, and a decimal numeral may start with `0` only when it is zero; in base 16, 8 or 2
  the matching prefix may stand; one underscore may follow a prefix;
* the digits are `0`-`9` then `a`-`z` (in either case) below the base, single underscores
  between them;
* a decimal numeral (any base that is not a power of two) of more than `maxDigits` digits is
  refused for its length, once its digits are counted, before the rest of the text is looked at;
* ASCII blanks may trail, and nothing else.
-/

namespace LowPowerPayload.Text

/-- The longest numeral of a base that is not a power of two that is read. -/
def maxDigits : Nat := 4300

/-- How reading an integer numeral ends. -/
inductive IntReading where
  /-- The numeral's value. -/
  | value (n : Int)
  /-- The text is no numeral of the base. -/
  | invalid
  /-- The numeral has more than `maxDigits` digits, this many. -/
  | tooLong (digits : Nat)
  deriving Repr, DecidableEq

/-- The value of a character as a digit of any base up to 36. -/
def digitValue (c : Char) : Option Nat :=
  if c.isDigit then some (c.toNat - 48)
  else if 'a' ≤ c ∧ c ≤ 'z' then some (c.toNat - 87)
  else if 'A' ≤ c ∧ c ≤ 'Z' then some (c.toNat - 55)
  else none

/-- The value of a digit in a base, when it is one. -/
def digitIn (base : Nat) (c : Char) : Option Nat := (digitValue c).filter (· < base)

/-- The longest run of digits of a base and underscores at the front of a text, and the rest. -/
def digitSpan (base : Nat) (cs : List Char) : List Char × List Char :=
  cs.span (fun c => (digitIn base c).isSome || c == '_')

/-- The value of a run of digits of a base with single underscores between them; `none` for
an empty run, two underscores together, or one at the end. -/
def digitRunValue (base : Nat) (run : List Char) : Option Nat :=
  go 0 ' ' run
where
  /-- Reads on from the value so far, after the character `prev`. -/
  go (acc : Nat) (prev : Char) : List Char → Option Nat
    | [] => if prev == '_' || prev == ' ' then none else some acc
    | c :: rest =>
      if c == '_' then (if prev == '_' then none else go acc c rest)
      else (digitIn base c).bind (fun d => go (base * acc + d) c rest)

/-- The base a prefix letter announces. -/
def prefixBase (c : Char) : Option Nat :=
  match c.toLower with
  | 'x' => some 16
  | 'o' => some 8
  | 'b' => some 2
  | _ => none

/-- Whether a base is a power of two, whose numerals are not limited in length. -/
def isBinaryBase (base : Nat) : Bool := base == 2 || base == 4 || base == 8 || base == 16 || base == 32

/-- Reads an integer numeral from ASCII text. -/
def readIntAscii (base : Nat) (text : List Char) : IntReading :=
  if base == 1 || 36 < base then .invalid else
  let cs := text.dropWhile isAsciiSpace
  let (negative, body) : Bool × List Char := match cs with
    | '-' :: rest => (true, rest)
    | '+' :: rest => (false, rest)
    | _ => (false, cs)
  let (base', zeroOnly) : Nat × Bool :=
    if base != 0 then (base, false)
    else match body with
      | '0' :: p :: _ => match prefixBase p with
        | some b => (b, false)
        | none => (10, true)
      | '0' :: [] => (10, true)
      | _ => (10, false)
  let afterPrefix : List Char := match body with
    | '0' :: p :: rest =>
      if prefixBase p == some base' then (match rest with
        | '_' :: more => more
        | _ => rest)
      else body
    | _ => body
  match afterPrefix with
  | '_' :: _ => .invalid
  | _ =>
    let (run, tail) := digitSpan base' afterPrefix
    let digits := (run.filter (· != '_')).length
    match digitRunValue base' run with
    | none => .invalid
    | some n =>
      if !isBinaryBase base' && maxDigits < digits then .tooLong digits
      else if zeroOnly && n != 0 then .invalid
      else if !(tail.all isAsciiSpace) then .invalid
      else .value (if negative then -(n : Int) else n)

/-- Reads an integer numeral from any text, its characters first brought to ASCII. -/
def readInt (base : Nat) (text : String) : IntReading := readIntAscii base (asciiNumeral text).toList

/-- Reads an integer numeral; `none` when the text is not one or is too long. -/
def parseInt? (base : Nat) (text : String) : Option Int :=
  match readInt base text with
  | .value n => some n
  | _ => none

/-- The message of a text that is no numeral of a base: the text's quoted form is cut to its
first 200 characters. -/
def invalidLiteralMessage (base : Nat) (text : String) : String :=
  "invalid literal for int() with base " ++ toString base ++ ": " ++
    String.ofList ((quote text).toList.take 200)

/-- The message of a numeral too long to read. -/
def tooLongMessage (digits : Nat) : String :=
  "Exceeds the limit (" ++ toString maxDigits ++ " digits) for integer string conversion: " ++
    "value has " ++ toString digits ++ " digits; use sys.set_int_max_str_digits() to increase " ++
    "the limit"

/-- The message of an integer too long to write in decimal. -/
def tooLongToWriteMessage : String :=
  "Exceeds the limit (" ++ toString maxDigits ++ " digits) for integer string conversion; " ++
    "use sys.set_int_max_str_digits() to increase the limit"

end LowPowerPayload.Text
