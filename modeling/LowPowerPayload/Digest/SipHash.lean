/-!
# SipHash-1-3

SipHash keyed by two 64-bit words, with one compression round for each 8-byte word of the
message and three finalisation rounds. The message is read in little-endian words; the last word
holds the remaining bytes and, in its top byte, the message length modulo 256.
-/

namespace LowPowerPayload.Digest

/-- The four state words of SipHash. -/
structure SipState where
  v0 : UInt64
  v1 : UInt64
  v2 : UInt64
  v3 : UInt64

/-- Rotation to the left within 64 bits. -/
def rotl (x : UInt64) (n : UInt64) : UInt64 := (x <<< n) ||| (x >>> (64 - n))

/-- One SipRound: two half rounds of additions, rotations and exclusive ors. -/
def SipState.round (s : SipState) : SipState :=
  let v0 := s.v0 + s.v1
  let v2 := s.v2 + s.v3
  let v1 := rotl s.v1 13 ^^^ v0
  let v3 := rotl s.v3 16 ^^^ v2
  let v0 := rotl v0 32
  let v2 := v2 + v1
  let v0 := v0 + v3
  let v1 := rotl v1 17 ^^^ v2
  let v3 := rotl v3 21 ^^^ v0
  let v2 := rotl v2 32
  ⟨v0, v1, v2, v3⟩

/-- Bytes read as a little-endian word: the first byte is the lowest. -/
def littleWord (bs : List UInt8) : UInt64 :=
  bs.foldr (fun b acc => (acc <<< 8) ||| b.toUInt64) 0

/-- Compresses a message word into the state. -/
def SipState.absorbWord (s : SipState) (m : UInt64) : SipState :=
  let s := { s with v3 := s.v3 ^^^ m }.round
  { s with v0 := s.v0 ^^^ m }

/-- Compresses the whole 8-byte words of a message, returning the bytes left over. -/
def SipState.absorb (s : SipState) : List UInt8 → SipState × List UInt8
  | b0 :: b1 :: b2 :: b3 :: b4 :: b5 :: b6 :: b7 :: rest =>
    (s.absorbWord (littleWord [b0, b1, b2, b3, b4, b5, b6, b7])).absorb rest
  | tail => (s, tail)

/-- SipHash-1-3 of a message under the key `(k0, k1)`. -/
def sipHash13 (k0 k1 : UInt64) (bs : List UInt8) : UInt64 :=
  let start : SipState := ⟨k0 ^^^ 0x736f6d6570736575, k1 ^^^ 0x646f72616e646f6d,
    k0 ^^^ 0x6c7967656e657261, k1 ^^^ 0x7465646279746573⟩
  let (s, tail) := start.absorb bs
  let s := s.absorbWord ((bs.length.toUInt64 <<< 56) ||| littleWord tail)
  let s := { s with v2 := s.v2 ^^^ 0xff }.round.round.round
  s.v0 ^^^ s.v1 ^^^ s.v2 ^^^ s.v3

end LowPowerPayload.Digest
