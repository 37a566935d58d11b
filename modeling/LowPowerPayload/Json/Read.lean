import LowPowerPayload.Datum
import LowPowerPayload.Text.Hex
/-!
# Reading JSON

`Json.parse?` reads one JSON value into a `Datum`. A number with a fraction or an exponent is a
double, rounded once from its exact decimal value; any other number is an integer of any size.
The words `NaN`, `Infinity` and `-Infinity` are doubles too. An object keeps its keys in order
of first appearance, a repeated key taking the later value.
-/

namespace LowPowerPayload.Json

open Decimal

/-- Whether a character is JSON white space. -/
def isSpace (c : Char) : Bool := c == ' ' || c == '\t' || c == '\n' || c == '\r'

/-- Drops leading JSON white space. -/
def skipSpace (cs : List Char) : List Char := cs.dropWhile isSpace

/-- The value of four hexadecimal digits. -/
def hexQuad? (a b c d : Char) : Option Nat :=
  match Text.hexValue? a, Text.hexValue? b, Text.hexValue? c, Text.hexValue? d with
  | some w, some x, some y, some z => some (((w * 16 + x) * 16 + y) * 16 + z)
  | _, _, _, _ => none

/-- The character of a simple escape letter. -/
def simpleEscape? : Char → Option Char
  | '"' => some '"'
  | '\\' => some '\\'
  | '/' => some '/'
  | 'b' => some (Char.ofNat 8)
  | 'f' => some (Char.ofNat 12)
  | 'n' => some '\n'
  | 'r' => some '\r'
  | 't' => some '\t'
  | _ => none

/-- Reads the rest of a string literal after its opening quote; `acc` holds the characters read
so far, reversed. A high surrogate escape must be followed by a low one. -/
def stringBody (acc : List Char) : List Char → Option (String × List Char)
  | [] => none
  | '"' :: rest => some (String.ofList acc.reverse, rest)
  | '\\' :: 'u' :: a :: b :: c :: d :: rest =>
    match hexQuad? a b c d with
    | some hi =>
      if 0xD800 ≤ hi ∧ hi < 0xDC00 then
        match rest with
        | '\\' :: 'u' :: e :: f :: g :: h :: more =>
          match hexQuad? e f g h with
          | some lo =>
            if 0xDC00 ≤ lo ∧ lo < 0xE000 then
              stringBody (Char.ofNat (0x10000 + (hi - 0xD800) * 0x400 + (lo - 0xDC00)) :: acc) more
            else none
          | none => none
        | _ => none
      else stringBody (Char.ofNat hi :: acc) rest
    | none => none
  | '\\' :: e :: rest =>
    match simpleEscape? e with
    | some c => stringBody (c :: acc) rest
    | none => none
  | c :: rest => if c.toNat < 0x20 then none else stringBody (c :: acc) rest

/-- Reads a number: an optional minus, digits, an optional fraction and exponent. -/
def number (cs : List Char) : Option (Datum × List Char) :=
  let (negative, body) := match cs with
    | '-' :: rest => (true, rest)
    | _ => (false, cs)
  let isNumChar (c : Char) : Bool := c.isDigit || c == '.' || c == 'e' || c == 'E' ||
    c == '+' || c == '-'
  let text := body.takeWhile isNumChar
  let rest := body.dropWhile isNumChar
  let whole := text.takeWhile Char.isDigit
  let valid := !whole.isEmpty && (whole.length == 1 || whole.head? != some '0')
  if !valid then none
  else if text.all Char.isDigit then
    let n : Nat := whole.foldl (fun (acc : Nat) c => 10 * acc + (c.toNat - 48)) 0
    some (.int (if negative then -(n : Int) else (n : Int)), rest)
  else
    match readUnsigned text with
    | some (m, e) => some (.float (ofDecimal negative m e), rest)
    | none => none

mutual
/-- Reads one value; `fuel` bounds the number of values and items read. -/
def value : Nat → List Char → Option (Datum × List Char)
  | 0, _ => none
  | fuel + 1, cs =>
    match skipSpace cs with
    | '{' :: rest =>
      match skipSpace rest with
      | '}' :: rest' => some (.mapping [], rest')
      | _ => members fuel rest []
    | '[' :: rest =>
      match skipSpace rest with
      | ']' :: rest' => some (.list [], rest')
      | _ => items fuel rest []
    | '"' :: rest => (stringBody [] rest).map (fun (s, r) => (.text s, r))
    | 't' :: 'r' :: 'u' :: 'e' :: rest => some (.bool true, rest)
    | 'f' :: 'a' :: 'l' :: 's' :: 'e' :: rest => some (.bool false, rest)
    | 'n' :: 'u' :: 'l' :: 'l' :: rest => some (.null, rest)
    | 'N' :: 'a' :: 'N' :: rest => some (.float notANumber, rest)
    | 'I' :: 'n' :: 'f' :: 'i' :: 'n' :: 'i' :: 't' :: 'y' :: rest => some (.float infinity, rest)
    | '-' :: 'I' :: 'n' :: 'f' :: 'i' :: 'n' :: 'i' :: 't' :: 'y' :: rest =>
      some (.float (-infinity), rest)
    | other => number other

/-- Reads the items of an array after `[`; `acc` holds the items read so far, reversed. -/
def items : Nat → List Char → List Datum → Option (Datum × List Char)
  | 0, _, _ => none
  | fuel + 1, cs, acc =>
    match value fuel cs with
    | some (v, rest) =>
      match skipSpace rest with
      | ',' :: rest' => items fuel rest' (v :: acc)
      | ']' :: rest' => some (.list (v :: acc).reverse, rest')
      | _ => none
    | none => none

/-- Reads the members of an object after `{`; `acc` holds the pairs read so far, reversed. -/
def members : Nat → List Char → List (Datum × Datum) → Option (Datum × List Char)
  | 0, _, _ => none
  | fuel + 1, cs, acc =>
    match skipSpace cs with
    | '"' :: rest =>
      match stringBody [] rest with
      | some (k, rest') =>
        match skipSpace rest' with
        | ':' :: rest'' =>
          match value fuel rest'' with
          | some (v, more) =>
            match skipSpace more with
            | ',' :: more' => members fuel more' ((.text k, v) :: acc)
            | '}' :: more' => some (.mapping (Datum.entriesOf ((.text k, v) :: acc).reverse), more')
            | _ => none
          | none => none
        | _ => none
      | none => none
    | _ => none
end

/-- Reads a whole text as one JSON value, white space around it allowed. -/
def parse? (s : String) : Option Datum :=
  let cs := s.toList
  match value (cs.length + 1) cs with
  | some (v, rest) => if (skipSpace rest).isEmpty then some v else none
  | none => none

end LowPowerPayload.Json
