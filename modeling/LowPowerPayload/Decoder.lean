import LowPowerPayload.Frame
/-!
# The decoder

A `Decoder` owns one registry and is what a caller works with: it decodes payloads, and adds,
removes and queries data types. Each operation returns the events it reports beside its result.
-/

namespace LowPowerPayload

/-- A payload decoder with its own registry. Follows `Decoder`,
`src/cayenne_lpp/protocol/decoder.py:105-131`. -/
structure Decoder where
  registry : Registry
  deriving Inhabited

namespace Decoder

/-- A decoder that knows the standard types. -/
def fresh : Decoder := ⟨Registry.standard⟩

/-- A decoder whose registry is seeded with the given descriptors. -/
def seeded (ds : List Descriptor) : Decoder := ⟨Registry.ofList ds⟩

/-- Decodes a payload: the events reported and the outcome. -/
def decode (d : Decoder) (bs : List UInt8) :
    List Event × Except DecodeFailure (KeyedMap Reading) :=
  let s := d.registry.scan bs
  (s.events, s.result)

/-- Adds a custom type whose name is text already: whether it was added, the decoder after,
and the event. -/
def addNamed (d : Decoder) (typeId : Datum) (name : String) (width : Datum) (slot : RuleSlot) :
    Bool × Decoder × List Event :=
  match d.registry.approve typeId width slot with
  | .error reason => (false, d, [.rejected typeId reason])
  | .ok a => (true, ⟨d.registry.insert (a.descriptor name)⟩, [.registered a.typeId name a.width])

/-- Adds a custom type: whether it was added, the decoder after, and the event. Once the checks pass
the name is written as text, and a name that cannot be written within `Registry.nameRoom` levels
raises, with the decoder as it was. Follows `add_custom_type`,
`src/cayenne_lpp/protocol/decoder.py:121-122`. -/
def add (d : Decoder) (typeId name width : Datum) (slot : RuleSlot) :
    Except Fault (Bool × Decoder × List Event) :=
  match d.registry.approve typeId width slot with
  | .error reason => .ok (false, d, [.rejected typeId reason])
  | .ok _ => (name.written Registry.nameRoom).map (fun text => d.addNamed typeId text width slot)

/-- Removes a custom type: whether it was removed, the decoder after, and the events. Follows
`remove_custom_type`, `src/cayenne_lpp/protocol/decoder.py:127-128`. -/
def remove (d : Decoder) (key : Datum) : Except Fault (Bool × Decoder × List Event) :=
  (d.registry.remove key).map fun
    | .absent => (false, d, [])
    | .refused => (false, d, [.removeRefused key])
    | .done r => (true, ⟨r⟩, [.removed key])

/-- Whether a data type with the key's id is known. -/
def contains (d : Decoder) (key : Datum) : Except Fault Bool := d.registry.contains key

/-- A one-line description: the number of types and of custom types. -/
def describe (d : Decoder) : String :=
  "Decoder(TypeRegistry(types=" ++ toString d.registry.size ++ ", custom=" ++
    toString d.registry.customIds.length ++ "))"

end Decoder

end LowPowerPayload
