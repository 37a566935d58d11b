import Std.Data.TreeMap
import LowPowerPayload.Hashing
import LowPowerPayload.Text.Numeral
/-!
# Values built from a YAML document

The values of a document live in a heap, a table indexed by `Nat`. A scalar value holds its
datum; a list, a mapping, a set and a pair hold the indices of their items. An alias makes two
places hold one value, and a collection may hold itself.

* `Heap.truthy` says whether a value counts as true: a scalar by its datum, a collection when it
  is not empty, and a pair always;
* `Heap.sameKey` is key equality: one value, or two scalars equal by value, so a NaN key equals
  only itself;
* `Heap.text` writes a value as `str` shows it: a scalar as its display text, a collection as
  its source text (`Heap.reprIn`). Inside a collection every item is written as source text,
  and a collection met again inside itself is written `[...]`, `{...}`, `set(...)` or `(...)`.
  A text fails when it would hold an integer of more than `Text.maxDigits` digits, or when its
  collections nest deeper than the levels given to write it.
-/

namespace LowPowerPayload.Yaml

/-- A value of the heap. -/
inductive Value where
  /-- A scalar: none, a truth value, a number, a text, a byte string or a timestamp. -/
  | scalar (d : Datum)
  /-- A list of values. -/
  | list (items : List Nat)
  /-- A mapping in insertion order, each entry a key value and a value. -/
  | dict (entries : List (Nat × Nat))
  /-- A set of key values, in the order its members are listed. -/
  | set (members : List Nat)
  /-- An ordered pair. -/
  | pair (first second : Nat)
  deriving Inhabited

/-- The values of a document. -/
structure Heap where
  values : Array Value
  deriving Inhabited

namespace Heap

/-- The value at an index; none past the table. -/
def get (h : Heap) (i : Nat) : Value := h.values.getD i (.scalar .null)

/-- Whether a value counts as true. -/
def truthy (h : Heap) (i : Nat) : Bool :=
  match h.get i with
  | .scalar d => d.truthy
  | .list items => !items.isEmpty
  | .dict entries => !entries.isEmpty
  | .set members => !members.isEmpty
  | .pair .. => true

/-- Whether a value can be a mapping key: lists, mappings and sets cannot. -/
def hashable (h : Heap) (i : Nat) : Bool :=
  match h.get i with
  | .list _ | .dict _ | .set _ => false
  | _ => true

/-- Whether two key values are one key. -/
def sameKey (h : Heap) (a b : Nat) : Bool :=
  a == b || match h.get a, h.get b with
    | .scalar x, .scalar y => x.looseEq y
    | _, _ => false

/-- The bucket a key value is filed under: its hash word, one bucket for none and one for the
NaNs (which are equal only to themselves), and a bucket of its own for any other value. Keys
that are one key share a bucket. -/
def bucket (h : Heap) (k : Nat) : Nat :=
  match h.get k with
  | .scalar d => match d.hashWord?, d with
    | some w, _ => w
    | none, .null => Nat.pow 2 64
    | none, _ => Nat.pow 2 64 + 1
  | _ => Nat.pow 2 64 + 2 + k

/-- The entries of a mapping as they are added, in order, with the places of its keys filed by
bucket. -/
structure EntryTable where
  entries : Array (Nat × Nat) := #[]
  places : Std.TreeMap Nat (List Nat) := {}

/-- Adds an entry: an equal key keeps its place and takes the new value, another key goes
last. Only the keys of its bucket are compared. -/
def EntryTable.insert (h : Heap) (t : EntryTable) (k v : Nat) : EntryTable :=
  let b := h.bucket k
  let here := t.places.getD b []
  let same (p : Nat) : Bool := match t.entries[p]? with
    | some (k', _) => h.sameKey k' k
    | none => false
  match here.find? same with
  | some p => { t with entries := t.entries.modify p (fun (k', _) => (k', v)) }
  | none => ⟨t.entries.push (k, v), t.places.insert b (here ++ [t.entries.size])⟩

/-- The value under a text key of a mapping value. -/
def lookup? (h : Heap) (i : Nat) (key : String) : Option Nat :=
  match h.get i with
  | .dict entries =>
    (entries.find? (fun (k, _) => match h.get k with
      | .scalar d => d.looseEq (.text key)
      | _ => false)).map Prod.snd
  | _ => none

/-- The datum of a scalar value. -/
def scalar? (h : Heap) (i : Nat) : Option Datum :=
  match h.get i with
  | .scalar d => some d
  | _ => none

/-- Why a value cannot be written. -/
inductive TextFailure where
  /-- An integer with more than `Text.maxDigits` digits. -/
  | tooLong
  /-- Collections nested deeper than the room to write them. -/
  | tooDeep
  deriving Repr, DecidableEq

/-- The levels writing a scalar takes: one, and for a date-time with an offset one more for
the offset and, unless it is UTC, one more for the offset's span. -/
def scalarLevels : Datum → Nat
  | .stamp t => match t.time.bind TimeOfDay.offset with
    | none => 1
    | some 0 => 2
    | some _ => 3
  | _ => 1

/-- The source text of a scalar. -/
def scalarRepr (d : Datum) : Except TextFailure String :=
  match d with
  | .int n =>
    if Text.maxDigits < (Nat.toDigits 10 n.natAbs).length then .error .tooLong else .ok d.repr
  | d => .ok d.repr

/-- The display text of a scalar. -/
def scalarText (d : Datum) : Except TextFailure String :=
  match d with
  | .int _ => scalarRepr d
  | d => .ok d.toText

/-- Joins the texts of items with a comma and a space. -/
def joinItems (parts : List String) : String := ", ".intercalate parts

/-- The source text of a value inside the collections `open_` (innermost first), with `room`
levels left: a collection takes one level and its items the levels below it, a set one more
for the list of its members, and a scalar its `scalarLevels`. A collection met again inside
itself takes one level. Writing goes item by item, so the first failure met wins. -/
def reprIn (h : Heap) : Nat → List Nat → Nat → Except TextFailure String
  | 0, _, _ => .error .tooDeep
  | room + 1, open_, i =>
    match h.get i with
    | .scalar d => if scalarLevels d ≤ room + 1 then scalarRepr d else .error .tooDeep
    | .list items =>
      if open_.contains i then .ok "[...]"
      else do
        let parts ← items.mapM (reprIn h room (i :: open_))
        return "[" ++ joinItems parts ++ "]"
    | .dict entries =>
      if open_.contains i then .ok "\x7b...\x7d"
      else do
        let parts ← entries.mapM (fun (k, v) => do
          let kt ← reprIn h room (i :: open_) k
          let vt ← reprIn h room (i :: open_) v
          return kt ++ ": " ++ vt)
        return "\x7b" ++ joinItems parts ++ "\x7d"
    | .set members =>
      if members.isEmpty then .ok "set()"
      else if open_.contains i then .ok "set(...)"
      else match room with
        | 0 => .error .tooDeep
        | inner + 1 => do
          let parts ← members.mapM (reprIn h inner (i :: open_))
          return "\x7b" ++ joinItems parts ++ "\x7d"
    | .pair a b =>
      if open_.contains i then .ok "(...)"
      else do
        let at_ ← reprIn h room (i :: open_) a
        let bt ← reprIn h room (i :: open_) b
        return "(" ++ at_ ++ ", " ++ bt ++ ")"

/-- The display text of a value with `room` levels to write it in: a scalar's own text, a
collection's source text. -/
def text (h : Heap) (room : Nat) (i : Nat) : Except TextFailure String :=
  match h.get i with
  | .scalar d => scalarText d
  | _ => h.reprIn room [] i

end Heap

end LowPowerPayload.Yaml
