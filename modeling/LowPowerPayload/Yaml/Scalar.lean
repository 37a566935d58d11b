import LowPowerPayload.Yaml.Failure
import LowPowerPayload.Yaml.Stamp
import LowPowerPayload.Text.Case
import LowPowerPayload.Text.Numeral
import LowPowerPayload.Decimal.Read
/-!
# Values of scalars

Each standard scalar tag reads a value from the scalar's text:

* `bool`: the text lowered must be `yes`, `no`, `true`, `false`, `on` or `off`;
* `int`: underscores dropped, an optional sign, then `0`, `0b` binary, `0x` hexadecimal, a
  leading `0` for octal (where `0o` may follow), base-60 groups `1:30`, or a decimal numeral; each
  part is read as `Text.readInt` reads numerals, blanks around it allowed;
* `float`: underscores dropped and the text lowered, an optional sign, then `.inf`, `.nan`,
  base-60 groups each read as a double, or a decimal numeral as `Decimal.parseFloat?` reads it;
* `binary`: ASCII base64, read leniently: characters outside the alphabet are skipped, and
  enough `=` after at least two characters of a quad end the data;
* `timestamp`: a date, or a date and a time of day, as `stampOf?` reads them, possibly before
  one final line break.

An `int` or `float` text with nothing to read fails with `emptyNumber`. Every `.nan` is one and
the same value (`isSharedNaN`).
-/

namespace LowPowerPayload.Yaml

open Decimal

/-- The truth value of a `bool` scalar. -/
def boolOf (text : String) : Except Failure Bool :=
  let w := Text.lower text
  if w == "yes" || w == "true" || w == "on" then .ok true
  else if w == "no" || w == "false" || w == "off" then .ok false
  else .error (.unknownWord w)

/-- The integer a text spells in a base. -/
def intIn (base : Nat) (cs : List Char) : Except Failure Int :=
  let s := String.ofList cs
  match Text.readInt base s with
  | .value n => .ok n
  | .invalid => .error (.value (Text.invalidLiteralMessage base s))
  | .tooLong digits => .error (.value (Text.tooLongMessage digits))

/-- The value of base-60 groups, the last group weighing one. -/
def sexagesimal (groups : List Int) : Int :=
  groups.foldl (fun acc d => 60 * acc + d) 0

/-- The integer an `int` scalar denotes. -/
def intOf (text : String) : Except Failure Int := do
  let cs := text.toList.filter (· != '_')
  let first ← match cs.head? with
    | some c => pure c
    | none => throw .emptyNumber
  let body := if first == '-' || first == '+' then cs.tail else cs
  let sign (n : Int) : Int := if first == '-' then -n else n
  match body with
  | ['0'] => return 0
  | '0' :: 'b' :: rest => return sign (← intIn 2 rest)
  | '0' :: 'x' :: rest => return sign (← intIn 16 rest)
  | '0' :: _ => return sign (← intIn 8 body)
  | [] => throw .emptyNumber
  | _ =>
    if body.contains ':' then
      let groups ← ((String.ofList body).splitOn ":").mapM (fun g => intIn 10 g.toList)
      return sign (sexagesimal groups)
    else return sign (← intIn 10 body)

/-- The double a text spells. -/
def floatIn (s : String) : Except Failure Float :=
  match parseFloat? s with
  | some x => .ok x
  | none => .error (.value ("could not convert string to float: " ++ Text.quote s))

/-- Whether a `float` scalar names the one NaN constant: `.nan` in any case, with a sign and
underscores allowed. Every such scalar denotes the same value, not only an equal one. -/
def isSharedNaN (text : String) : Bool :=
  let cs := (Text.lower (String.ofList (text.toList.filter (· != '_')))).toList
  let body := match cs with
    | '-' :: rest | '+' :: rest => rest
    | rest => rest
  body == ".nan".toList

/-- The double of base-60 groups given last first: each group times its weight, `60` to the
power of its place, added up from the last group. A weight beyond the largest double fails. -/
def weighGroups (acc : Float) (place : Nat) : List Float → Except Failure Float
  | [] => .ok acc
  | d :: rest =>
    let weight : Int := Int.pow 60 place
    if !fitsDouble weight then .error .weightTooLarge
    else weighGroups (acc + d * ofInt weight) (place + 1) rest

/-- The double a `float` scalar denotes. -/
def floatOf (text : String) : Except Failure Float := do
  let cs := (Text.lower (String.ofList (text.toList.filter (· != '_')))).toList
  let first ← match cs.head? with
    | some c => pure c
    | none => throw .emptyNumber
  let body := if first == '-' || first == '+' then cs.tail else cs
  let sign (x : Float) : Float := if first == '-' then -x else x
  let word := String.ofList body
  if word == ".inf" then return sign infinity
  if word == ".nan" then return notANumber
  if body.contains ':' then
    let groups ← (word.splitOn ":").mapM floatIn
    return sign (← weighGroups 0.0 0 groups.reverse)
  return sign (← floatIn word)

/-- The value of a base64 character. -/
def base64Value (c : Char) : Option Nat :=
  if 'A' ≤ c ∧ c ≤ 'Z' then some (c.toNat - 65)
  else if 'a' ≤ c ∧ c ≤ 'z' then some (c.toNat - 71)
  else if '0' ≤ c ∧ c ≤ '9' then some (c.toNat + 4)
  else if c == '+' then some 62
  else if c == '/' then some 63
  else none

/-- Decodes base64 text leniently; `none` when the characters of the alphabet leave a quad
unfinished. -/
def base64Decode (cs : List Char) : Option (List UInt8) :=
  go cs 0 0 0 []
where
  /-- Reads on with `quad` characters of the current quad read, the bits they leave over, the
  pad characters seen since the last character of the alphabet, and the bytes so far
  (reversed). -/
  go : List Char → Nat → Nat → Nat → List UInt8 → Option (List UInt8)
    | [], quad, _, _, acc => if quad == 0 then some acc.reverse else none
    | c :: rest, quad, left, pads, acc =>
      if c == '=' then
        if 2 ≤ quad then
          if 4 ≤ quad + (pads + 1) then some acc.reverse else go rest quad left (pads + 1) acc
        else go rest quad left pads acc
      else match base64Value c with
        | none => go rest quad left pads acc
        | some v => match quad with
          | 0 => go rest 1 v 0 acc
          | 1 => go rest 2 (v % 16) 0 ((left * 4 + v / 16).toUInt8 :: acc)
          | 2 => go rest 3 (v % 4) 0 ((left * 16 + v / 4).toUInt8 :: acc)
          | _ => go rest 0 0 0 ((left * 64 + v).toUInt8 :: acc)

/-- The bytes of a `binary` scalar. -/
def bytesOf (text : String) : Except Failure (List UInt8) :=
  if !text.toList.all (·.toNat < 0x80) then .error (.malformed "base64 data is not ASCII")
  else match base64Decode text.toList with
    | some bs => .ok bs
    | none => .error (.malformed "incorrect base64 padding")

/-- The timestamp of a `timestamp` scalar, its parts checked. -/
def stampValueOf (text : String) : Except Failure Timestamp :=
  let cs := text.toList
  let read := match stampOf? cs with
    | some t => some t
    | none => if cs.getLast? == some '\n' then stampOf? cs.dropLast else none
  match read with
  | none => .error .noTimestamp
  | some t => match t.check with
    | some m => .error (.value m)
    | none => .ok t

end LowPowerPayload.Yaml
