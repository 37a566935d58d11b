import LowPowerPayload.Datum
/-!
# Writing values as JSON

`Datum.json` writes a value as JSON text. Texts keep their characters, escaping only the quote,
the backslash and the control characters. Doubles take their shortest text, and the non-finite
ones the words `NaN`, `Infinity` and `-Infinity`. Without an indent, items are separated by a
comma and a space and keys by a colon and a space, all on one line; with an indent of `n`,
every item stands on its own line, `n` spaces deeper than its container, and items are
separated by a comma alone. Empty collections are `[]` and `{}` either way.
-/

namespace LowPowerPayload.Json

open Decimal

/-- The escape of one character inside a JSON string; a surrogate's stand-in is escaped as the
surrogate. -/
def escapeChar (c : Char) : String :=
  if let some u := Text.surrogateOf? c then "\\u" ++ Text.hexLowerPadded 4 u
  else if c = '"' then "\\\""
  else if c = '\\' then "\\\\"
  else if c = '\n' then "\\n"
  else if c = '\r' then "\\r"
  else if c = '\t' then "\\t"
  else if c.toNat = 8 then "\\b"
  else if c.toNat = 12 then "\\f"
  else if c.toNat < 0x20 then "\\u" ++ Text.hexLowerPadded 4 c.toNat
  else String.singleton c

/-- A JSON string literal. -/
def quote (s : String) : String := "\"" ++ String.join (s.toList.map escapeChar) ++ "\""

/-- The text of a key: a text as itself, other scalars as JSON writes them. -/
def keyText : Datum → String
  | .text s => s
  | .null => "null"
  | .bool b => if b then "true" else "false"
  | .int n => toString n
  | .float x => Notation.json.render x
  | d => d.repr

/-- The layout of a JSON text: one line, or one item per line at an indent. -/
structure Layout where
  indent : Option Nat

/-- A line break followed by the indentation of a depth. -/
def Layout.newline (l : Layout) (depth : Nat) : String :=
  match l.indent with
  | some n => "\n" ++ String.ofList (List.replicate (n * depth) ' ')
  | none => ""

/-- The separator between two items. -/
def Layout.comma (l : Layout) : String :=
  match l.indent with
  | some _ => ","
  | none => ", "

/-- Joins the texts of items into a bracketed collection at a depth. -/
def Layout.bracket (l : Layout) (depth : Nat) (open_ close : String) (items : List String) :
    String :=
  match items with
  | [] => open_ ++ close
  | _ =>
    open_ ++ l.newline (depth + 1) ++ (l.comma ++ l.newline (depth + 1)).intercalate items ++
      l.newline depth ++ close

mutual
/-- A value as JSON text at a nesting depth. -/
def write (l : Layout) (depth : Nat) : Datum → String
  | .null => "null"
  | .bool b => if b then "true" else "false"
  | .int n => toString n
  | .float x => Notation.json.render x
  | .text s => quote s
  | .stamp t => quote t.isoText
  | .bytes b => quote (Text.quoteBytes b)
  | .list items => l.bracket depth "[" "]" (writeItems l depth items)
  | .mapping entries => l.bracket depth "\x7b" "\x7d" (writeEntries l depth entries)

/-- The texts of list items. -/
def writeItems (l : Layout) (depth : Nat) : List Datum → List String
  | [] => []
  | x :: rest => write l (depth + 1) x :: writeItems l depth rest

/-- The texts of mapping entries. -/
def writeEntries (l : Layout) (depth : Nat) : List (Datum × Datum) → List String
  | [] => []
  | (k, v) :: rest => (quote (keyText k) ++ ": " ++ write l (depth + 1) v) :: writeEntries l depth rest
end

end LowPowerPayload.Json

namespace LowPowerPayload.Datum

/-- A value as JSON text in a layout. -/
def json (d : Datum) (l : Json.Layout) : String := Json.write l 0 d

end LowPowerPayload.Datum
