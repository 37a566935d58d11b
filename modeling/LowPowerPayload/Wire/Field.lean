import LowPowerPayload.Wire.Encoding
import LowPowerPayload.Datum
import LowPowerPayload.KeyedMap
/-!
# Fields and record layouts

A `Field` is one primitive of a record layout: an optional name, an encoding name, and a
divisor. Its reading is the primitive's integer when the divisor equals one and the encoding
is an integer one, and otherwise the primitive's value divided by the divisor as a double.

A layout of fields packs them back to back. A layout of one unnamed field reads the whole data
as that field; any other layout reads a record whose keys are the field names (a missing
name reads `None`), each field decoding the slice at its running offset.
-/

namespace LowPowerPayload

/-- One primitive of a record layout. Follows `FieldSpec`, `src/cayenne_lpp/model/loader.py:15-28`.
-/
structure Field where
  name : Option String
  encode : String
  divisor : Datum
  deriving Inhabited

namespace Field

/-- The number of bytes the field takes. -/
def size (f : Field) : Except Fault Nat := (Encoding.named f.encode).map Encoding.size

/-- Divides a primitive value by a nonzero double. -/
def scale (raw : Reading) (d : Float) : Reading :=
  match raw with
  | .int n => .real (Decimal.ofInt n / d)
  | .real x => .real (x / d)
  | r => r

/-- Decodes the field from exactly its own size of bytes. Follows `FieldSpec.decode`,
`src/cayenne_lpp/model/loader.py:24-28`. -/
def decode (f : Field) (bs : List UInt8) : Except Fault Reading := do
  let raw ← decodeNamed f.encode bs
  let e ← Encoding.named f.encode
  if f.divisor.looseEq (.int 1) && e.isInteger then return raw
  let d ← f.divisor.toFloat
  if d == 0.0 then throw .divisionByZero
  return scale raw d

/-- The key of a field in a record. -/
def key (f : Field) : String := f.name.getD "None"

end Field

/-- Reads the fields one after the other from the data, each from the slice at its running
offset, into a record in field order. -/
def decodeFields (data : List UInt8) : List Field → Nat → KeyedMap Reading →
    Except Fault (KeyedMap Reading)
  | [], _, acc => .ok acc
  | f :: rest, offset, acc => do
    let size ← f.size
    let v ← f.decode ((data.drop offset).take size)
    decodeFields data rest (offset + size) (acc.insert f.key v)

/-- Reads data by a layout: one unnamed field reads as itself, any other layout as a record. Follows
`CustomTypeSpec.decode`, `src/cayenne_lpp/model/loader.py:47-56`. -/
def decodeLayout (fields : List Field) (data : List UInt8) : Except Fault Reading :=
  match fields with
  | [f] => if f.name.isNone then f.decode data else record
  | _ => record
where
  /-- The record reading of the layout. -/
  record : Except Fault Reading :=
    (decodeFields data fields 0 KeyedMap.empty).map (fun m => .record m.entries)

end LowPowerPayload
