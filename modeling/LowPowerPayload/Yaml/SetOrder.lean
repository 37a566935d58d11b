import LowPowerPayload.Hashing
/-!
# The order of a set's members

A set lists its members in the order of the slots they take in an open-addressing table keyed
by their hash words (`Datum.hashWord?`):

* the table has a power of two slots, at least eight. A member goes to the first empty slot of
  its probe sequence: from the slot its hash word picks, the nine slots after it when they are in
  the table, then on to `5 · i + 1 + perturb`, where `perturb` starts as the hash word and loses
  five bits each step;
* a table filled to three fifths of its mask grows to the smallest power of two above four times
  its members, and the members move over in slot order. Adding `n` members at once first grows
  the table to hold twice `n`, when it would pass three fifths.

A set holding a value without a hash word keeps the order its members were added in
(`SetOrder.arrange`).
-/

namespace LowPowerPayload.Yaml

namespace SetOrder

/-- The smallest table size, a power of two no smaller than eight, above `n`. -/
def sizeAbove (n : Nat) : Nat :=
  go 8 64
where
  /-- Doubles `size` at most `fuel` times until it passes `n`. -/
  go (size : Nat) : Nat → Nat
    | 0 => size
    | fuel + 1 => if n < size then size else go (2 * size) fuel

end SetOrder

/-- The slots of a table, each empty or holding a member and its hash word. -/
structure SlotTable (α : Type) where
  slots : Array (Option (α × Nat))
  used : Nat

namespace SlotTable

variable {α : Type}

/-- An empty table of `size` slots. -/
def empty (size : Nat) : SlotTable α := ⟨Array.replicate size none, 0⟩

/-- The mask of slot indices. -/
def mask (t : SlotTable α) : Nat := t.slots.size - 1

/-- Whether a slot is empty. -/
def isFree (t : SlotTable α) (i : Nat) : Bool := (t.slots.getD i none).isNone

/-- The first empty slot of a probe run from `i`: the slot itself, then the nine after it when
they are in the table. -/
def freeInRun (t : SlotTable α) (i : Nat) : Option Nat :=
  let run := if i + 9 ≤ t.mask then List.range' i 10 else [i]
  run.find? t.isFree

/-- The empty slot a hash word takes, trying at most `fuel` runs. -/
def freeSlot (t : SlotTable α) (i perturb : Nat) : Nat → Option Nat
  | 0 => none
  | fuel + 1 =>
    match t.freeInRun i with
    | some j => some j
    | none =>
      let perturb := perturb / 32
      t.freeSlot ((i * 5 + 1 + perturb) % t.slots.size) perturb fuel

/-- Puts a member in the empty slot its hash word takes. -/
def place (t : SlotTable α) (member : α × Nat) : Option (SlotTable α) := do
  let j ← t.freeSlot (member.2 % t.slots.size) member.2 (t.slots.size + 16)
  return ⟨t.slots.set! j (some member), t.used + 1⟩

/-- The members in slot order. -/
def members (t : SlotTable α) : List (α × Nat) := t.slots.toList.filterMap id

/-- Places members one after another. -/
def placeAll (t : SlotTable α) (ms : List (α × Nat)) : Option (SlotTable α) :=
  ms.foldlM place t

/-- The table regrown to the smallest size above `n`, its members moved in slot order. -/
def grow (t : SlotTable α) (n : Nat) : Option (SlotTable α) :=
  (empty (SetOrder.sizeAbove n)).placeAll t.members

/-- Adds a member, then grows the table if it is three fifths full. -/
def add (t : SlotTable α) (member : α × Nat) : Option (SlotTable α) := do
  let mask := t.mask
  let t ← t.place member
  if t.used * 5 < mask * 3 then return t
  t.grow (if 50000 < t.used then t.used * 2 else t.used * 4)

/-- Adds distinct members in order, growing the table once first when they would pass three
fifths of it. -/
def addAll (t : SlotTable α) (ms : List (α × Nat)) : Option (SlotTable α) := do
  let t ← if (t.used + ms.length) * 5 < t.mask * 3 then pure t
    else t.grow ((t.used + ms.length) * 2)
  ms.foldlM add t

end SlotTable

namespace SetOrder

/-- Arranges distinct members, given in the order they are added, in the order of their slots;
when some member has no hash word they keep the order given. -/
def arrange {α : Type} (datum : α → Option Datum) (ms : List α) : List α :=
  let hashed := ms.filterMap (fun m => (datum m >>= Datum.hashWord?).map (fun h => (m, h)))
  if hashed.length != ms.length then ms
  else match (SlotTable.empty 8).addAll hashed with
    | some t => t.members.map Prod.fst
    | none => ms

end SetOrder

end LowPowerPayload.Yaml
