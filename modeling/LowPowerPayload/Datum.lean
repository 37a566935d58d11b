import LowPowerPayload.Fault
import LowPowerPayload.Decimal.Notation
import LowPowerPayload.Decimal.Read
import LowPowerPayload.Decimal.Integral
import LowPowerPayload.Text.Quote
import LowPowerPayload.Timestamp
/-!
# Loose values

A `Datum` is a value whose type is only known when it is looked at: what a catalog document
holds, and what a caller hands to the registry as an id, a name or a width. Numbers compare by
value across truth values, integers and doubles (`true`, `1` and `1.0` are one key), and every
datum has a display text (`Datum.toText`) and a source text (`Datum.repr`).
-/

namespace LowPowerPayload

open Decimal

/-- A dynamically typed value. -/
inductive Datum where
  | null
  | bool (b : Bool)
  | int (n : Int)
  | float (x : Float)
  | text (s : String)
  | stamp (t : Timestamp)
  | bytes (b : List UInt8)
  | list (items : List Datum)
  | mapping (entries : List (Datum × Datum))
  deriving Inhabited

namespace Datum

/-- The name of a datum's type, as messages show it. -/
def typeName : Datum → String
  | .null => "NoneType"
  | .bool _ => "bool"
  | .int _ => "int"
  | .float _ => "float"
  | .text _ => "str"
  | .stamp t => if t.time.isSome then "datetime.datetime" else "datetime.date"
  | .bytes _ => "bytes"
  | .list _ => "list"
  | .mapping _ => "dict"

/-- Whether a datum counts as true in a condition: nonzero numbers, nonempty texts and
collections and byte strings, and every timestamp. A NaN counts as true. -/
def truthy : Datum → Bool
  | .null => false
  | .bool b => b
  | .int n => n != 0
  | .float x => !(x == 0.0)
  | .text s => !s.isEmpty
  | .stamp _ => true
  | .bytes b => !b.isEmpty
  | .list items => !items.isEmpty
  | .mapping entries => !entries.isEmpty

/-- The integer value of a truth value or an integer. -/
def intValue? : Datum → Option Int
  | .bool b => some (if b then 1 else 0)
  | .int n => some n
  | _ => none

/-- Whether a number datum equals the double `y` by value. -/
def eqFloat (d : Datum) (y : Float) : Bool :=
  match d with
  | .float x => x == y
  | d => match d.intValue?, exactInt? y with
    | some n, some m => n == m
    | _, _ => false

mutual
/-- Equality by value: numbers across truth values, integers and doubles; texts and byte
strings by content; timestamps as `Timestamp.same` says; collections item by item. A NaN equals
nothing. -/
def looseEq : Datum → Datum → Bool
  | .null, .null => true
  | .text a, .text b => a == b
  | .stamp a, .stamp b => a.same b
  | .bytes a, .bytes b => a == b
  | .float x, d => d.eqFloat x
  | d, .float y => d.eqFloat y
  | .list xs, .list ys => looseEqList xs ys
  | .mapping xs, .mapping ys => looseEqEntries xs ys
  | a, b => match a.intValue?, b.intValue? with
    | some n, some m => n == m
    | _, _ => false

/-- Item-by-item equality of two lists. -/
def looseEqList : List Datum → List Datum → Bool
  | [], [] => true
  | x :: xs, y :: ys => looseEq x y && looseEqList xs ys
  | _, _ => false

/-- Entry-by-entry equality of two entry lists. -/
def looseEqEntries : List (Datum × Datum) → List (Datum × Datum) → Bool
  | [], [] => true
  | (k, v) :: xs, (k', v') :: ys => looseEq k k' && looseEq v v' && looseEqEntries xs ys
  | _, _ => false
end

/-- Whether a datum can be a key: neither a list nor a mapping. -/
def hashable : Datum → Bool
  | .list _ | .mapping _ => false
  | _ => true

mutual
/-- The source text of a datum: texts quoted, everything else as `str` shows it. -/
def repr : Datum → String
  | .text s => Text.quote s
  | .null => "None"
  | .bool b => if b then "True" else "False"
  | .int n => toString n
  | .float x => Notation.general.render x
  | .stamp t => t.repr
  | .bytes b => Text.quoteBytes b
  | .list items => "[" ++ reprItems items ++ "]"
  | .mapping entries => "\x7b" ++ reprEntries entries ++ "\x7d"

/-- The source texts of list items, separated by a comma and a space. -/
def reprItems : List Datum → String
  | [] => ""
  | [x] => repr x
  | x :: rest => repr x ++ ", " ++ reprItems rest

/-- The source texts of mapping entries, separated by a comma and a space. -/
def reprEntries : List (Datum × Datum) → String
  | [] => ""
  | [(k, v)] => repr k ++ ": " ++ repr v
  | (k, v) :: rest => repr k ++ ": " ++ repr v ++ ", " ++ reprEntries rest
end

/-- The display text of a datum: a text is itself, anything else its source text. -/
def toText : Datum → String
  | .text s => s
  | .stamp t => t.isoText
  | d => d.repr

/-- The value of a mapping under a text key. -/
def get? (d : Datum) (key : String) : Option Datum :=
  match d with
  | .mapping entries => (entries.find? (fun e => e.1.looseEq (.text key))).map Prod.snd
  | _ => none

/-- Adds an entry to a mapping's entries: an equal key keeps its place and takes the new
value. -/
def insertEntry (k v : Datum) : List (Datum × Datum) → List (Datum × Datum)
  | [] => [(k, v)]
  | (k', v') :: rest => if k'.looseEq k then (k', v) :: rest else (k', v') :: insertEntry k v rest

/-- Builds a mapping's entries from pairs in order, as repeated insertion does. -/
def entriesOf (pairs : List (Datum × Datum)) : List (Datum × Datum) :=
  pairs.foldl (fun acc (k, v) => insertEntry k v acc) []

/-- The double a datum reads as: numbers by value (an integer rounded to nearest), texts as
decimal numbers. -/
def toFloat : Datum → Except Fault Float
  | .bool b => .ok (if b then 1.0 else 0.0)
  | .int n => if fitsDouble n then .ok (ofInt n) else .error .floatOverflow
  | .float x => .ok x
  | .text s => match parseFloat? s with
    | some x => .ok x
    | none => .error (.notFloatText (Text.quote s))
  | d => .error (.notFloatArgument d.typeName)

/-- A byte string from a list of items, each an integer or truth value in `0..255`. The first
item that fails decides the fault. -/
def toBytes : List Datum → Except Fault (List UInt8)
  | [] => .ok []
  | d :: rest =>
    match d.intValue? with
    | some n =>
      if 0 ≤ n ∧ n < 256 then (toBytes rest).map (fun bs => n.toNat.toUInt8 :: bs)
      else .error .byteRange
    | none => .error (.notInteger d.typeName)

end Datum

end LowPowerPayload
