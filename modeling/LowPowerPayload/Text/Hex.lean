/-!
# Hexadecimal text

Bytes are written as two lowercase digits each. A type id is written as uppercase digits
padded to two places, a minus sign counting toward the width. Reading goes the other way: a
text of an even number of hexadecimal digits, in either case, is the byte string they spell.
-/

namespace LowPowerPayload.Text

/-- The lowercase hexadecimal digit of a value below 16. -/
def hexDigit (n : Nat) : Char :=
  if n < 10 then Char.ofNat (48 + n) else Char.ofNat (87 + n)

/-- Two lowercase hexadecimal digits of a byte. -/
def byteHex (b : UInt8) : String :=
  String.ofList [hexDigit (b.toNat / 16), hexDigit (b.toNat % 16)]

/-- A byte string as lowercase hexadecimal text, two digits a byte. -/
def bytesHex (bs : List UInt8) : String := String.join (bs.map byteHex)

/-- An integer as uppercase hexadecimal digits, at least two places including the sign. -/
def hexTag (n : Int) : String :=
  let ds := (Nat.toDigits 16 n.natAbs).map Char.toUpper
  if n < 0 then String.ofList ('-' :: ds)
  else String.ofList (List.replicate (2 - ds.length) '0' ++ ds)

/-- The value of one hexadecimal digit in either case. -/
def hexValue? (c : Char) : Option Nat :=
  if c.isDigit then some (c.toNat - 48)
  else if 'a' ≤ c ∧ c ≤ 'f' then some (c.toNat - 87)
  else if 'A' ≤ c ∧ c ≤ 'F' then some (c.toNat - 55)
  else none

/-- The bytes spelled by pairs of hexadecimal digits; `none` for an odd count or any other
character. -/
def bytesOfHex? : List Char → Option (List UInt8)
  | [] => some []
  | [_] => none
  | a :: b :: rest =>
    match hexValue? a, hexValue? b, bytesOfHex? rest with
    | some x, some y, some bs => some ((x * 16 + y).toUInt8 :: bs)
    | _, _, _ => none

end LowPowerPayload.Text
