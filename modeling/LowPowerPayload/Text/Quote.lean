import LowPowerPayload.Text.Printable
/-!
# Quoted text

`quote s` writes a text the way a value printer shows a string: between single quotes, or
between double quotes when the text holds a single quote and no double quote; the chosen quote
and the backslash are escaped, tab, newline and carriage return get their letter escapes, and any
other character that does not print gets a hexadecimal escape of two, four or eight digits.

Which characters print is `Text.isPrintable`.
-/

namespace LowPowerPayload.Text

/-- The lowercase hexadecimal digits of `n`, left-padded with zeros to `width`. -/
def hexLowerPadded (width n : Nat) : String :=
  let ds := Nat.toDigits 16 n
  String.ofList (List.replicate (width - ds.length) '0' ++ ds)

/-- The first code point of the private-use plane 16 that stands for a surrogate. A text may
hold a lone surrogate, which is no character; it is kept as the character `0x100000` above it,
in a block of that plane that no text of the formats read here uses. -/
def surrogateShift : Nat := 0x100000

/-- The character for a code point below `0x110000`: the code point's own character, or the
stand-in of a surrogate. -/
def charOfCode (code : Nat) : Char :=
  if 0xD800 ≤ code ∧ code ≤ 0xDFFF then Char.ofNat (code + surrogateShift) else Char.ofNat code

/-- The surrogate a character stands for, if it is a stand-in. -/
def surrogateOf? (c : Char) : Option Nat :=
  if 0xD800 + surrogateShift ≤ c.toNat ∧ c.toNat ≤ 0xDFFF + surrogateShift then
    some (c.toNat - surrogateShift)
  else none

/-- The escape of one character inside a quoted text. A surrogate's stand-in is escaped as the
surrogate. -/
def escapeChar (q : Char) (c : Char) : String :=
  if let some s := surrogateOf? c then "\\u" ++ hexLowerPadded 4 s
  else if c = q ∨ c = '\\' then String.ofList ['\\', c]
  else if c = '\t' then "\\t"
  else if c = '\n' then "\\n"
  else if c = '\r' then "\\r"
  else if isPrintable c then String.singleton c
  else if c.toNat < 0x100 then "\\x" ++ hexLowerPadded 2 c.toNat
  else if c.toNat < 0x10000 then "\\u" ++ hexLowerPadded 4 c.toNat
  else "\\U" ++ hexLowerPadded 8 c.toNat

/-- The quote character for a text: double only when the text has a single quote and no
double quote. -/
def quoteFor (s : String) : Char :=
  if s.toList.contains '\'' && !s.toList.contains '"' then '"' else '\''

/-- A text between quotes, escaped. -/
def quote (s : String) : String :=
  let q := quoteFor s
  String.singleton q ++ String.join (s.toList.map (escapeChar q)) ++ String.singleton q

/-- The escape of one byte inside a quoted byte string: the quote and the backslash escaped,
tab, newline and carriage return by their letters, and any other byte outside printable ASCII
by two hexadecimal digits. -/
def escapeByte (q : Char) (b : UInt8) : String :=
  let c := Char.ofNat b.toNat
  if c = q ∨ c = '\\' then String.ofList ['\\', c]
  else if c = '\t' then "\\t"
  else if c = '\n' then "\\n"
  else if c = '\r' then "\\r"
  else if b < 0x20 ∨ 0x7F ≤ b then "\\x" ++ hexLowerPadded 2 b.toNat
  else String.singleton c

/-- A byte string between quotes after `b`, escaped; the quote is chosen as for texts. -/
def quoteBytes (bs : List UInt8) : String :=
  let q : Char := if bs.contains 39 && !bs.contains 34 then '"' else '\''
  "b" ++ String.singleton q ++ String.join (bs.map (escapeByte q)) ++ String.singleton q

end LowPowerPayload.Text
