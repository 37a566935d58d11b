import LowPowerPayload.Descriptor
/-!
# The standard data types

Twelve data types are fixed by the payload format, each with an id, a name, a data width, and a
rule chosen by its id. The rules read only the bytes they need from the front of the data:
a shorter slice fails on the first missing byte, a longer one has its extra bytes ignored.
Scaled readings divide the integer by a power of ten as doubles.
-/

namespace LowPowerPayload

/-- The fixed rules of the standard types. -/
inductive StandardRule where
  /-- The first byte, unsigned (digital input and output, presence). -/
  | byte
  /-- A signed 16-bit value in hundredths. -/
  | analog
  /-- An unsigned 16-bit value. -/
  | luminosity
  /-- A signed 16-bit value in tenths. -/
  | temperature
  /-- An unsigned 16-bit value in tenths (humidity, barometer). -/
  | tenths
  /-- Three signed 16-bit axes, each divided by the scale. -/
  | axes (scale : Float)
  /-- Latitude and longitude as signed 24-bit values in ten-thousandths, altitude in
  hundredths. -/
  | position

/-- The slice `[start, stop)` of a byte string, cut short at its end. -/
def slice (bs : List UInt8) (start stop : Nat) : List UInt8 := (bs.drop start).take (stop - start)

/-- An integer divided by a double. -/
def ratio (n : Int) (d : Float) : Reading := .real (Decimal.ofInt n / d)

/-- Applies a standard rule to a frame's data. Follows the rules of
`src/cayenne_lpp/protocol/rules.py:20-69`. -/
def StandardRule.run : StandardRule → List UInt8 → Except Fault Reading
  | .byte, bs => (byteAt bs 0).map (fun b => .int b)
  | .analog, bs => (int16 bs).map (ratio · 100.0)
  | .luminosity, bs => (uint16 bs).map .int
  | .temperature, bs => (int16 bs).map (ratio · 10.0)
  | .tenths, bs => (uint16 bs).map (ratio · 10.0)
  | .axes scale, bs => do
    let x ← int16 (slice bs 0 2)
    let y ← int16 (slice bs 2 4)
    let z ← int16 (slice bs 4 6)
    return .record [("x", ratio x scale), ("y", ratio y scale), ("z", ratio z scale)]
  | .position, bs => do
    let lat ← int24 (slice bs 0 3)
    let lon ← int24 (slice bs 3 6)
    let alt ← int24 (slice bs 6 9)
    return .record [("latitude", ratio lat 10000.0), ("longitude", ratio lon 10000.0),
      ("altitude", ratio alt 100.0)]

/-- A standard type: id, name, width and rule. -/
structure StandardType where
  typeId : Nat
  name : String
  width : Nat
  rule : StandardRule

/-- The standard types in id order. Follows `v1_standard_types`,
`src/cayenne_lpp/protocol/definitions.py:8-37`. -/
def StandardType.all : List StandardType :=
  [⟨0x00, "Digital Input", 1, .byte⟩, ⟨0x01, "Digital Output", 1, .byte⟩,
   ⟨0x02, "Analog Input", 2, .analog⟩, ⟨0x03, "Analog Output", 2, .analog⟩,
   ⟨0x65, "Luminosity", 2, .luminosity⟩, ⟨0x66, "Presence", 1, .byte⟩,
   ⟨0x67, "Temperature", 2, .temperature⟩, ⟨0x68, "Humidity", 2, .tenths⟩,
   ⟨0x71, "Accelerometer", 6, .axes 1000.0⟩, ⟨0x73, "Barometer", 2, .tenths⟩,
   ⟨0x86, "Gyrometer", 6, .axes 100.0⟩, ⟨0x88, "GPS", 9, .position⟩]

/-- The fixed rule of a standard id. -/
def StandardRule.ofId? (typeId : Int) : Option StandardRule :=
  (StandardType.all.find? (fun t => (t.typeId : Int) == typeId)).map StandardType.rule

/-- The descriptor of a standard type. -/
def StandardType.descriptor (t : StandardType) : Descriptor :=
  ⟨t.typeId, t.name, t.width, true, .missing⟩

end LowPowerPayload
