import LowPowerPayload.Fault
import LowPowerPayload.Reading
/-!
# Big-endian primitive encodings

The wire carries integers of one to four bytes, unsigned or two's complement, and IEEE
single and double floats, all most significant byte first. An encoding is named by text and
matched without regard to ASCII case; `Encoding.decode` reads exactly its own size of bytes.

The integer helpers `uint16`, `int16`, `uint24` and `int24` read the first two or three bytes of
any longer data and fail on shorter data.
-/

namespace LowPowerPayload

/-- A primitive wire encoding. Follows `PRIMITIVES`, `src/cayenne_lpp/model/codec.py:17-29`. -/
inductive Encoding where
  | uint8 | int8 | uint16 | int16 | uint24 | int24 | uint32 | int32 | float32 | float64
  deriving Repr, DecidableEq

namespace Encoding

/-- Every encoding, in table order. -/
def all : List Encoding :=
  [.uint8, .int8, .uint16, .int16, .uint24, .int24, .uint32, .int32, .float32, .float64]

/-- The lowercase name of an encoding. -/
def name : Encoding → String
  | .uint8 => "uint8" | .int8 => "int8" | .uint16 => "uint16" | .int16 => "int16"
  | .uint24 => "uint24" | .int24 => "int24" | .uint32 => "uint32" | .int32 => "int32"
  | .float32 => "float" | .float64 => "double"

/-- The number of bytes an encoding takes. -/
def size : Encoding → Nat
  | .uint8 | .int8 => 1
  | .uint16 | .int16 => 2
  | .uint24 | .int24 => 3
  | .uint32 | .int32 | .float32 => 4
  | .float64 => 8

/-- Whether an encoding carries an integer. -/
def isInteger : Encoding → Bool
  | .float32 | .float64 => false
  | _ => true

/-- Whether an integer encoding is two's complement. -/
def isSigned : Encoding → Bool
  | .int8 | .int16 | .int24 | .int32 => true
  | _ => false

/-- The encoding a name denotes, ignoring ASCII case. A name with any other character denotes
none: no such character has a lowercase form among the encoding names. -/
def ofName? (s : String) : Option Encoding :=
  if s.toList.all (fun c => c.toNat < 128) then
    let lower := String.ofList (s.toList.map Char.toLower)
    all.find? (fun e => e.name == lower)
  else none

/-- The encoding a name denotes, or the fault for an unknown name. Follows `_codec`,
`src/cayenne_lpp/model/codec.py:32-36`. -/
def named (s : String) : Except Fault Encoding :=
  match ofName? s with
  | some e => .ok e
  | none => .error (.unknownEncoding s)

end Encoding

/-- The unsigned big-endian value of a byte string. -/
def bigEndian (bs : List UInt8) : Nat := bs.foldl (fun acc b => acc * 256 + b.toNat) 0

/-- The number of 30-bit digits that hold `2 ^ s`. -/
def powerDigits (s : Nat) : Nat := 1 + s / 30 + (if s % 30 = 0 then 0 else 1)

/-- The most 30-bit digits an integer may have: its bytes, after a 24-byte header, must be
counted by a signed 64-bit size. -/
def maxIntDigits : Nat := (Nat.pow 2 63 - 1 - 24) / 4

/-- The bytes a machine gives one integer, as the codec's own helpers are run: they form powers
of two of at most 24 bits, which take a few bytes of it. -/
def memoryBytes : Nat := Nat.pow 2 34

/-- Checks that `2 ^ s` can be formed when one integer may take `memory` bytes: it has at most
`maxIntDigits` digits, and its digits fit in `memory`. -/
def checkPower (memory s : Nat) : Except Fault Unit :=
  if maxIntDigits < powerDigits s then .error .tooManyDigits
  else if memory < 24 + 4 * powerDigits s then .error .outOfMemory
  else .ok ()

/-- Two's-complement reading of a `bits`-wide value, when one integer may take `memory` bytes:
a value of at least `2^(bits-1)` loses `2^bits`. Zero or fewer bits is a fault, and so is a
width whose powers of two are too large to form. A positive value is at least `2^k` exactly
when its binary logarithm is at least `k`, so the powers are only formed when the value is that
large. Follows `to_signed`, `src/cayenne_lpp/model/codec.py:62-66`. -/
def signExtend (memory : Nat) (value : Int) (bits : Int) : Except Fault Int := do
  if bits ≤ 0 then throw .negativeShift
  checkPower memory (bits - 1).toNat
  if 0 < value ∧ (bits - 1).toNat ≤ value.toNat.log2 then
    checkPower memory bits.toNat
    return value - Int.pow 2 bits.toNat
  else return value

/-- The byte at an index, or the fault for reading past the end. -/
def byteAt (bs : List UInt8) (i : Nat) : Except Fault Nat :=
  match bs[i]? with
  | some b => .ok b.toNat
  | none => .error .indexOutOfRange

/-- The unsigned value of the first two bytes. Follows `bytes_to_uint16`,
`src/cayenne_lpp/model/codec.py:69-70`. -/
def uint16 (bs : List UInt8) : Except Fault Int := do
  let hi ← byteAt bs 0
  let lo ← byteAt bs 1
  return (hi * 256 + lo : Nat)

/-- The two's-complement value of the first two bytes. Follows `bytes_to_int16`,
`src/cayenne_lpp/model/codec.py:73-74`. -/
def int16 (bs : List UInt8) : Except Fault Int := do
  signExtend memoryBytes (← uint16 bs) 16

/-- The unsigned value of the first three bytes. Follows `bytes_to_uint24`,
`src/cayenne_lpp/model/codec.py:77-78`. -/
def uint24 (bs : List UInt8) : Except Fault Int := do
  let b0 ← byteAt bs 0
  let b1 ← byteAt bs 1
  let b2 ← byteAt bs 2
  return (b0 * 65536 + b1 * 256 + b2 : Nat)

/-- The two's-complement value of the first three bytes. Follows `bytes_to_int24`,
`src/cayenne_lpp/model/codec.py:81-82`. -/
def int24 (bs : List UInt8) : Except Fault Int := do
  signExtend memoryBytes (← uint24 bs) 24

/-- The bits of the double equal to the single-precision float with bits `w`. Widening is
exact: the sign and fraction move over, the exponent is rebiased, and a subnormal single is
renormalised. -/
def widenSingle (w : Nat) : Nat :=
  let sign := w / Nat.pow 2 31 % 2
  let field := w / Nat.pow 2 23 % Nat.pow 2 8
  let fraction := w % Nat.pow 2 23
  let top := sign * Nat.pow 2 63
  if field = 255 then top + 2047 * Nat.pow 2 52 + fraction * Nat.pow 2 29
  else if field = 0 then
    if fraction = 0 then top
    else
      -- the value is fraction · 2^-149; its leading bit is bit `k` of the fraction
      let k := Nat.log2 fraction
      let rest := fraction - Nat.pow 2 k
      top + (k + 874) * Nat.pow 2 52 + rest * Nat.pow 2 (52 - k)
  else top + (field + 896) * Nat.pow 2 52 + fraction * Nat.pow 2 29

/-- The value of exactly `e.size` bytes in encoding `e`. -/
def Encoding.read (e : Encoding) (bs : List UInt8) : Reading :=
  let u := bigEndian bs
  match e with
  | .float32 => .real (Float.ofBits (UInt64.ofNat (widenSingle u)))
  | .float64 => .real (Float.ofBits (UInt64.ofNat u))
  | e =>
    if e.isSigned ∧ u ≥ Nat.pow 2 (8 * e.size - 1) then
      .int ((u : Int) - Int.pow 2 (8 * e.size))
    else .int u

/-- Decodes a byte string in an encoding: its length must be the encoding's size. Follows
`decode_primitive`, `src/cayenne_lpp/model/codec.py:39-47`. -/
def Encoding.decode (e : Encoding) (bs : List UInt8) : Except Fault Reading :=
  if bs.length = e.size then .ok (e.read bs)
  else .error (.lengthMismatch bs.length e.size e.name)

/-- Decodes a byte string in the encoding a name denotes; the length fault quotes the name as
given. -/
def decodeNamed (name : String) (bs : List UInt8) : Except Fault Reading := do
  let e ← Encoding.named name
  if bs.length = e.size then .ok (e.read bs)
  else .error (.lengthMismatch bs.length e.size name)

end LowPowerPayload
