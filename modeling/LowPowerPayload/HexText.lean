import LowPowerPayload.Text.Blank
import LowPowerPayload.Text.Hex
/-!
# Payloads typed as hexadecimal text

A user types a payload as hexadecimal digits, in any grouping: `0167 0110`, `01:67:01:10`,
`0x01,0x67`, `0x1, 0x67`. The text is trimmed and cut into tokens at runs of separators (blanks,
commas, colons, semicolons and hyphens). A token may start with `0x` in either case; what
follows the prefix is taken as one byte when it is a single digit. The tokens joined must be an
even number of hexadecimal digits.
-/

namespace LowPowerPayload

/-- Why a payload text is not whole bytes of hexadecimal. -/
inductive HexTextError where
  /-- The joined digits are of odd number. -/
  | oddDigits (count : Nat)
  /-- A token holds something other than hexadecimal digits; the text as given. -/
  | notHex (text : String)
  deriving Repr, DecidableEq

/-- The wording of a payload text error. -/
def HexTextError.message : HexTextError → String
  | .oddDigits count => "Hex payload has an odd number of digits (" ++ toString count ++ ")"
  | .notHex text => "Invalid hex payload '" ++ text ++ "'"

namespace HexText

/-- Whether a character separates tokens. -/
def isSeparator (c : Char) : Bool :=
  Text.isBlank c || c == ',' || c == ':' || c == ';' || c == '-'

/-- Closes the token being read, if any, onto the tokens read so far (both reversed). -/
def closeToken (cur : List Char) (acc : List (List Char)) : List (List Char) :=
  if cur.isEmpty then acc else cur.reverse :: acc

/-- The tokens of a text: the runs of characters between separators. -/
def tokens (cs : List Char) : List (List Char) :=
  let step (st : List Char × List (List Char)) (c : Char) : List Char × List (List Char) :=
    if isSeparator c then ([], closeToken st.1 st.2) else (c :: st.1, st.2)
  let (cur, acc) := cs.foldl step ([], [])
  (closeToken cur acc).reverse

/-- A token without its `0x` prefix, a single digit after the prefix padded with a zero. -/
def digitsOf (tok : List Char) : List Char :=
  match tok with
  | '0' :: x :: rest =>
    if x == 'x' || x == 'X' then
      match rest with
      | [d] => ['0', d]
      | _ => rest
    else tok
  | _ => tok

/-- The hexadecimal digits a text spells, tokens joined. -/
def digits (s : String) : List Char :=
  ((tokens (Text.trimBlank s).toList).map digitsOf).flatten

/-- Reads a payload text as bytes. Follows `parse_hex_payload`,
`src/cayenne_lpp/utils/hexpayload.py:9-32`. -/
def parse (s : String) : Except HexTextError (List UInt8) :=
  let ds := digits s
  if ds.length % 2 = 1 then .error (.oddDigits ds.length)
  else match Text.bytesOfHex? ds with
    | some bs => .ok bs
    | none => .error (.notHex s)

end HexText

end LowPowerPayload
