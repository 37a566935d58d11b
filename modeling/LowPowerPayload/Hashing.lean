import LowPowerPayload.Datum
import LowPowerPayload.Digest.SipHash
/-!
# Hashes of data

The hash of a datum is a 64-bit word, the key a hash table files it under. Values equal as keys
hash alike, so numbers hash by value across truth values, integers and doubles:

* a number's hash is its value reduced modulo the prime `2 ^ 61 - 1`, with its sign; a truth
  value counts as `0` or `1`, an infinity as `±314159`. Since `2 ^ 61` is one modulo that prime,
  a double `m · 2 ^ e` hashes as `m · 2 ^ (e mod 61)`;
* a byte string hashes by SipHash-1-3 under the zero key, and the empty one as `0`;
* a text hashes as the byte string of its code points, each written little-endian in one byte
  when all are below `256`, in two when all are below `65536`, and in four otherwise;
* a date hashes as the bytes of its year (two, high first), month and day, and a local
  date-time as those followed by its hour, minute, second and microsecond (three bytes);
* a date-time with an offset hashes as the triple of days, seconds and microseconds of its
  instant, counted from the day before the first day of year 1;
* a triple hashes by folding the words of its parts with the primes below.

A hash of `-1` becomes `-2`. None and NaN hash by where they lie in memory, so they have no hash
here (`Datum.hashWord?` is `none`), and neither do lists and mappings, which cannot be keys.
-/

namespace LowPowerPayload

namespace Hashing

/-- The prime `2 ^ 61 - 1` numeric hashes are reduced by. -/
def modulus : Nat := Nat.pow 2 61 - 1

/-- A signed hash as an unsigned 64-bit word, with `-1` taken as `-2`. -/
def wordOf (h : Int) : Nat := if h = -1 then Nat.pow 2 64 - 2 else (h % Int.pow 2 64).toNat

/-- The hash of the number `±m · 2 ^ e`. -/
def rationalHash (negative : Bool) (m : Nat) (e : Int) : Int :=
  let r : Int := (m % modulus * (Nat.pow 2 (e % 61).toNat % modulus) % modulus : Nat)
  if negative then -r else r

/-- The hash of an integer. -/
def intHash (n : Int) : Int := rationalHash (n < 0) n.natAbs 0

/-- The hash of a double; `none` for a NaN. -/
def floatHash? (x : Float) : Option Int :=
  match Decimal.Parts.ofFloat x with
  | .zero _ => some 0
  | .finite negative b => some (rationalHash negative b.mantissa b.exponent)
  | .infinite negative => some (if negative then -314159 else 314159)
  | .nan => none

/-- The hash word of a byte string. -/
def bytesWord (bs : List UInt8) : Nat :=
  if bs.isEmpty then 0
  else
    let w := (Digest.sipHash13 0 0 bs).toNat
    if w = Nat.pow 2 64 - 1 then Nat.pow 2 64 - 2 else w

/-- The bytes a text is hashed as: its code points, a surrogate's stand-in as the surrogate,
each in the fewest whole bytes that hold every code point of the text. -/
def textBytes (s : String) : List UInt8 :=
  let codes := s.toList.map (fun c => (Text.surrogateOf? c).getD c.toNat)
  let width := if codes.all (· < 256) then 1 else if codes.all (· < 65536) then 2 else 4
  codes.flatMap (fun n => (List.range width).map (fun i => (n / Nat.pow 256 i % 256).toUInt8))

/-- The hash word of a sequence of hash words. -/
def tupleWord (lanes : List Nat) : Nat :=
  let p1 : UInt64 := 11400714785074694791
  let p2 : UInt64 := 14029467366897019727
  let p5 : UInt64 := 2870177450012600261
  let acc := lanes.foldl (fun acc lane =>
    let acc := acc + lane.toUInt64 * p2
    ((acc <<< 31) ||| (acc >>> 33)) * p1) p5
  let acc := acc + (lanes.length.toUInt64 ^^^ (p5 ^^^ 3527539))
  if acc.toNat = Nat.pow 2 64 - 1 then 1546275796 else acc.toNat

/-- The microseconds in a day. -/
def dayMicros : Int := 86400 * 1000000

/-- The hash word of a timestamp. -/
def stampWord (t : Timestamp) : Nat :=
  let date : List Nat := [t.year / 256, t.year % 256, t.month, t.day]
  match t.time with
  | none => bytesWord (date.map Nat.toUInt8)
  | some c =>
    match c.offset with
    | none =>
      let clock := [c.hour, c.minute, c.second, c.micro / 65536, c.micro / 256 % 256,
        c.micro % 256]
      bytesWord ((date ++ clock).map Nat.toUInt8)
    | some _ =>
      let total := t.instant c + dayMicros
      let lanes := [total / dayMicros, total % dayMicros / 1000000, total % 1000000]
      tupleWord (lanes.map (fun n => wordOf (intHash n)))

end Hashing

open Hashing in
/-- The hash word of a datum, for the data whose hash does not depend on memory. -/
def Datum.hashWord? : Datum → Option Nat
  | .bool b => some (if b then 1 else 0)
  | .int n => some (wordOf (intHash n))
  | .float x => (floatHash? x).map wordOf
  | .text s => some (bytesWord (textBytes s))
  | .bytes b => some (bytesWord b)
  | .stamp t => some (stampWord t)
  | _ => none

end LowPowerPayload
