import LowPowerPayload.Text.Blank
/-!
# Decimal digits of every script

The decimal digits of Unicode 14.0 (general category Nd) come in runs of ten code points,
zero to nine, one run per script. A number read from text accepts the digits of every script,
each worth its place in its run: `asciiNumeral` rewrites a text into ASCII before it is read.
Its ASCII characters stay as they are; beyond ASCII a blank becomes a space and a digit the
ASCII digit of its value, and the first character of any other kind becomes `?` and ends the
text, since no number reads past it.

The blanks a number may have around it are then the ASCII ones only (`isAsciiSpace`): space,
tab, line feed, vertical tab, form feed and carriage return.
-/

namespace LowPowerPayload.Text

/-- The first code point, the zero, of each run of ten decimal digits, in ascending order. -/
def decimalZeros : List Nat :=
  [0x30, 0x660, 0x6F0, 0x7C0, 0x966, 0x9E6, 0xA66, 0xAE6, 0xB66, 0xBE6, 0xC66, 0xCE6, 0xD66,
    0xDE6, 0xE50, 0xED0, 0xF20, 0x1040, 0x1090, 0x17E0, 0x1810, 0x1946, 0x19D0, 0x1A80, 0x1A90,
    0x1B50, 0x1BB0, 0x1C40, 0x1C50, 0xA620, 0xA8D0, 0xA900, 0xA9D0, 0xA9F0, 0xAA50, 0xABF0,
    0xFF10, 0x104A0, 0x10D30, 0x11066, 0x110F0, 0x11136, 0x111D0, 0x112F0, 0x11450, 0x114D0,
    0x11650, 0x116C0, 0x11730, 0x118E0, 0x11950, 0x11C50, 0x11D50, 0x11DA0, 0x16A60,
    0x16AC0, 0x16B50, 0x1D7CE, 0x1D7D8, 0x1D7E2, 0x1D7EC, 0x1D7F6, 0x1E140, 0x1E2F0,
    0x1E950, 0x1FBF0]

/-- The value of a decimal digit of any script. -/
def decimalDigit? (c : Char) : Option Nat :=
  (decimalZeros.find? (fun z => z ≤ c.toNat && c.toNat < z + 10)).map (fun z => c.toNat - z)

/-- An ASCII digit is worth what it spells. -/
theorem decimalDigit?_of_isDigit (c : Char) (h : c.isDigit = true) :
    decimalDigit? c = some (c.toNat - 48) := by
  simp only [Char.isDigit, Bool.and_eq_true, decide_eq_true_eq] at h
  obtain ⟨lo, hi⟩ := h
  have lo' : 48 ≤ c.toNat := lo
  have hi' : c.toNat ≤ 57 := hi
  unfold decimalDigit? decimalZeros
  rw [List.find?_cons_of_pos]
  · rfl
  · simp only [Bool.and_eq_true, decide_eq_true_eq]
    omega

/-- A text in the form numbers are read in: ASCII characters kept, other blanks as spaces,
other decimal digits as ASCII digits, and the text cut at the first character of any other
kind, which becomes `?`. -/
def asciiNumeral (s : String) : String :=
  String.ofList (go s.toList)
where
  /-- The ASCII form of a list of characters. -/
  go : List Char → List Char
    | [] => []
    | c :: rest =>
      if c.toNat < 0x7F then c :: go rest
      else if isBlank c then ' ' :: go rest
      else match decimalDigit? c with
        | some d => Char.ofNat (48 + d) :: go rest
        | none => ['?']

/-- Whether a character is an ASCII blank: space, tab, line feed, vertical tab, form feed or
carriage return. -/
def isAsciiSpace (c : Char) : Bool :=
  c == ' ' || c == '\t' || c == '\n' || c == '\r' || c.toNat == 11 || c.toNat == 12

/-- A list of characters without its ASCII blanks at both ends. -/
def trimAsciiSpace (cs : List Char) : List Char :=
  ((cs.dropWhile isAsciiSpace).reverse.dropWhile isAsciiSpace).reverse

end LowPowerPayload.Text
