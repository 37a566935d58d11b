/-!
# UTF-16 text

A UTF-16 text is a sequence of 16-bit code units, each two bytes in one of two orders. A unit
outside the surrogates `0xD800..0xDFFF` is a character of its own; a high surrogate
`0xD800..0xDBFF` followed by a low one `0xDC00..0xDFFF` together spell a character of the
supplementary planes. A byte left over, or a surrogate without its partner, spells nothing.
-/

namespace LowPowerPayload.Text

/-- The code units of a byte string read two bytes at a time, the high byte first when
`bigEndian`; none when a byte is left over. -/
def utf16Units (bigEndian : Bool) : List UInt8 → Option (List Nat)
  | [] => some []
  | [_] => none
  | a :: b :: rest =>
    let unit := if bigEndian then a.toNat * 256 + b.toNat else b.toNat * 256 + a.toNat
    (utf16Units bigEndian rest).map (unit :: ·)

/-- The characters code units spell; none when a surrogate stands without its partner. -/
def charsOfUtf16 : List Nat → Option (List Char)
  | [] => some []
  | u :: rest =>
    if u < 0xD800 ∨ 0xDFFF < u then (charsOfUtf16 rest).map (Char.ofNat u :: ·)
    else if 0xDC00 ≤ u then none
    else match rest with
      | v :: rest' =>
        if 0xDC00 ≤ v ∧ v ≤ 0xDFFF then
          let c := Char.ofNat (0x10000 + (u - 0xD800) * 0x400 + (v - 0xDC00))
          (charsOfUtf16 rest').map (c :: ·)
        else none
      | [] => none

/-- The text a UTF-16 byte string spells, in the given byte order. -/
def ofUtf16? (bigEndian : Bool) (bytes : List UInt8) : Option String :=
  ((utf16Units bigEndian bytes).bind charsOfUtf16).map String.ofList

end LowPowerPayload.Text
