import LowPowerPayload.Yaml.Value
/-!
# Loose values written within a number of levels

Writing a loose value as text goes down through its collections one level at a time, and only
so many levels are there to take: a list or a mapping takes one, and its items the levels below
it, a scalar takes `Yaml.Heap.scalarLevels`. An integer of more than `Text.maxDigits` digits cannot
be written in decimal at all. `Datum.textWithin` writes a value as its display text with a
given room of levels, and `Datum.written` reports its failures as faults. `Datum.levels` and
`Datum.intsWritable` say, without writing anything, what the writing needs.
-/

namespace LowPowerPayload

/-- The fault each failure to write raises. -/
def Yaml.Heap.TextFailure.fault : Yaml.Heap.TextFailure → Fault
  | .tooLong => .tooLongToWrite
  | .tooDeep => .nestedTooDeep

namespace Datum

open Yaml.Heap (TextFailure scalarLevels scalarRepr scalarText joinItems)

/-- The source text of a value with `room` levels to write it in: a list or a mapping takes one
level and its items the levels below it, and a scalar its `scalarLevels`. Writing goes item by
item, so the first failure met wins. -/
def reprWithin : Nat → Datum → Except TextFailure String
  | 0, _ => .error .tooDeep
  | room + 1, .list items => do
    let parts ← items.mapM (reprWithin room)
    return "[" ++ joinItems parts ++ "]"
  | room + 1, .mapping entries => do
    let parts ← entries.mapM (fun e => do
      let kt ← reprWithin room e.1
      let vt ← reprWithin room e.2
      return kt ++ ": " ++ vt)
    return "\x7b" ++ joinItems parts ++ "\x7d"
  | room + 1, d => if scalarLevels d ≤ room + 1 then scalarRepr d else .error .tooDeep

/-- The display text of a value with `room` levels to write it in: a scalar's own text, and a
collection's source text. -/
def textWithin (room : Nat) (d : Datum) : Except TextFailure String :=
  match d with
  | .list _ | .mapping _ => d.reprWithin room
  | d => scalarText d

/-- The display text of a value with `room` levels to write it in, or the fault raised. -/
def written (room : Nat) (d : Datum) : Except Fault String :=
  (d.textWithin room).mapError TextFailure.fault

mutual
/-- The levels writing a value takes: a list or a mapping one more than its deepest item, a
scalar its `scalarLevels`. -/
def levels : Datum → Nat
  | .list items => levelsOfItems items + 1
  | .mapping entries => levelsOfEntries entries + 1
  | d => scalarLevels d

/-- The most levels an item of a list takes. -/
def levelsOfItems : List Datum → Nat
  | [] => 0
  | x :: rest => max x.levels (levelsOfItems rest)

/-- The most levels a key or a value of a mapping takes. -/
def levelsOfEntries : List (Datum × Datum) → Nat
  | [] => 0
  | (k, v) :: rest => max (max k.levels v.levels) (levelsOfEntries rest)
end

mutual
/-- Whether every integer a value holds has at most `Text.maxDigits` decimal digits. -/
def intsWritable : Datum → Bool
  | .int n => (Nat.toDigits 10 n.natAbs).length ≤ Text.maxDigits
  | .list items => itemsWritable items
  | .mapping entries => entriesWritable entries
  | _ => true

/-- Whether every integer the items of a list hold can be written. -/
def itemsWritable : List Datum → Bool
  | [] => true
  | x :: rest => x.intsWritable && itemsWritable rest

/-- Whether every integer the keys and values of a mapping hold can be written. -/
def entriesWritable : List (Datum × Datum) → Bool
  | [] => true
  | (k, v) :: rest => k.intsWritable && v.intsWritable && entriesWritable rest
end

end Datum

end LowPowerPayload
