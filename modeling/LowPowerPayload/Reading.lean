import LowPowerPayload.Datum
import LowPowerPayload.KeyedMap
/-!
# Readings

A `Reading` is what a data type's rule makes of a frame's data bytes: an integer, a real, a
text, or a record of named readings in field order. `Reading.toDatum` shows a reading as a
loose value, a record becoming a mapping with text keys.
-/

namespace LowPowerPayload

/-- The value decoded from one frame. -/
inductive Reading where
  | int (n : Int)
  | real (x : Float)
  | text (s : String)
  | record (entries : List (String × Reading))
  deriving Inhabited

mutual
/-- A reading as a loose value. -/
def Reading.toDatum : Reading → Datum
  | .int n => .int n
  | .real x => .float x
  | .text s => .text s
  | .record entries => .mapping (Reading.entriesToDatum entries)

/-- Record entries as mapping entries. -/
def Reading.entriesToDatum : List (String × Reading) → List (Datum × Datum)
  | [] => []
  | (k, v) :: rest => (.text k, v.toDatum) :: Reading.entriesToDatum rest
end

/-- A decoded payload as a loose mapping in key order. -/
def KeyedMap.toDatum (m : KeyedMap Reading) : Datum := .mapping (Reading.entriesToDatum m.entries)

end LowPowerPayload
