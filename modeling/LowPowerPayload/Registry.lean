import LowPowerPayload.Standard
import LowPowerPayload.Event
import LowPowerPayload.Text.Written
/-!
# Registries of data types

A `Registry` maps type ids to descriptors. It lists its descriptors in ascending id order with
no id twice, which is the order in which it reports them. A new registry holds the twelve
standard types; a registry may also be seeded with any descriptors, a later one replacing an
earlier one of the same id.

Registration checks, in order: the id is an integer in `0..255`, no descriptor has that id yet,
the width is an integer of at least one, and the slot holds a rule. Removal takes away a custom
type only. A query with a loose key finds the descriptor whose id equals it by value, and fails
for a key that cannot be hashed.
-/

namespace LowPowerPayload

/-- Descriptors by id, in ascending id order. Follows `TypeRegistry`,
`src/cayenne_lpp/protocol/registry.py:11-103`. -/
structure Registry where
  descriptors : List Descriptor
  deriving Inhabited

namespace Registry

/-- Puts a descriptor at its place by id, replacing one of the same id. -/
def place (d : Descriptor) : List Descriptor → List Descriptor
  | [] => [d]
  | e :: rest =>
    if d.typeId < e.typeId then d :: e :: rest
    else if d.typeId = e.typeId then d :: rest
    else e :: place d rest

/-- Adds or replaces a descriptor. -/
def insert (r : Registry) (d : Descriptor) : Registry := ⟨place d r.descriptors⟩

/-- Removes the descriptor of an id. -/
def erase (r : Registry) (typeId : Int) : Registry :=
  ⟨r.descriptors.filter (fun d => d.typeId != typeId)⟩

/-- A registry seeded with descriptors in order. -/
def ofList (ds : List Descriptor) : Registry := ds.foldl insert ⟨[]⟩

/-- The registry of the standard types. Follows `v1_standard_types`,
`src/cayenne_lpp/protocol/definitions.py:22-37`. -/
def standard : Registry := ofList (StandardType.all.map StandardType.descriptor)

/-- The descriptor of an id. Follows `TypeRegistry.lookup`,
`src/cayenne_lpp/protocol/registry.py:35-36`. -/
def find? (r : Registry) (typeId : Int) : Option Descriptor :=
  r.descriptors.find? (fun d => d.typeId == typeId)

/-- The number of descriptors. -/
def size (r : Registry) : Nat := r.descriptors.length

/-- The ids of the custom types, ascending. -/
def customIds (r : Registry) : List Int :=
  (r.descriptors.filter (fun d => !d.standard)).map Descriptor.typeId

/-- The id a loose key denotes: integers and truth values by value, a double that equals an
integer; other hashable keys denote none, and a list or mapping is no key. -/
def keyId (key : Datum) : Except Fault (Option Int) :=
  match key with
  | .list _ | .mapping _ => .error (.unhashable key.typeName)
  | .float x => .ok (Decimal.exactInt? x)
  | k => .ok k.intValue?

/-- The descriptor a loose key finds. -/
def lookup (r : Registry) (key : Datum) : Except Fault (Option Descriptor) :=
  (keyId key).map (fun id? => id?.bind r.find?)

/-- Whether a loose key finds a descriptor. Follows `TypeRegistry.contains`,
`src/cayenne_lpp/protocol/registry.py:38-39`. -/
def contains (r : Registry) (key : Datum) : Except Fault Bool :=
  (r.lookup key).map Option.isSome

/-- The checked parts of a registration. -/
structure Approval where
  typeId : Int
  width : Int
  rule : Rule

/-- Checks a registration; the first failing check gives the rejection. Follows `_reject_reason`,
`src/cayenne_lpp/protocol/registry.py:90-100`. -/
def approve (r : Registry) (typeId width : Datum) (slot : RuleSlot) : Except Rejection Approval :=
  match typeId with
  | .int t =>
    if t < 0 ∨ t > 255 then .error .idOutOfRange
    else match r.find? t with
      | some d => .error (if d.standard then .standardType else .duplicate)
      | none =>
        match width with
        | .int w =>
          if w < 1 then .error .invalidWidth
          else match slot with
            | .ready rule => .ok ⟨t, w, rule⟩
            | _ => .error .missingRule
        | _ => .error .invalidWidth
  | _ => .error .idOutOfRange

/-- The custom descriptor an admission adds, under its name written as text. -/
def Approval.descriptor (a : Approval) (name : String) : Descriptor :=
  ⟨a.typeId, name, a.width, false, .ready a.rule⟩

/-- The levels there are to write the name of a type being registered: the registration runs
six calls deep, the caller's three and the decoder's, the registry's and the writing's own,
of the thousand calls a run may nest. -/
def nameRoom : Nat := 994

/-- Registers a custom type: the rejection, or the registry after. Once the checks pass, the name is
written as text, which raises for a name that cannot be written within `nameRoom` levels. Follows
`register_custom`, `src/cayenne_lpp/protocol/registry.py:56-76`. -/
def register (r : Registry) (typeId : Datum) (name : Datum) (width : Datum) (slot : RuleSlot) :
    Except Fault (Except Rejection Registry) :=
  match r.approve typeId width slot with
  | .error reason => .ok (.error reason)
  | .ok a => (name.written nameRoom).map (fun text => .ok (r.insert (a.descriptor text)))

/-- What a removal finds. -/
inductive Removal where
  /-- No descriptor has the key's id. -/
  | absent
  /-- The key's id is a standard type, which stays. -/
  | refused
  /-- The custom type of that id was removed. -/
  | done (rest : Registry)

/-- Removes the custom type a key denotes. Follows `unregister_custom`,
`src/cayenne_lpp/protocol/registry.py:78-88`. -/
def remove (r : Registry) (key : Datum) : Except Fault Removal :=
  (r.lookup key).map fun
    | none => .absent
    | some d => if d.standard then .refused else .done (r.erase d.typeId)

end Registry

end LowPowerPayload
