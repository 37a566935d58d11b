import LowPowerPayload.Wire.Field
import LowPowerPayload.Text.Hex
/-!
# Data types and their rules

A `Descriptor` describes one data type of a registry: its id, its name, the width of its data
in bytes, whether it is a standard type, and for a custom type the rule that turns its data
into a reading. A standard type's rule is fixed by its id instead.

A custom rule is a function of the data alone: any such function, or one of three that have a
name of their own, the data as hexadecimal text, a failure with a given message, and a record
layout. A rule slot may also be empty or hold a value that is no rule at all.
-/

namespace LowPowerPayload

/-- A custom decode rule. -/
inductive Rule where
  /-- The data as lowercase hexadecimal text. -/
  | hex
  /-- Always fails with the message. -/
  | failing (message : String)
  /-- The data read by a record layout. -/
  | layout (fields : List Field)
  /-- Any function of the data: the reading it gives or the fault it raises. -/
  | fn (f : List UInt8 → Except Fault Reading)
  deriving Inhabited

/-- Applies a rule to a frame's data. -/
def Rule.run : Rule → List UInt8 → Except Fault Reading
  | .hex, bs => .ok (.text (Text.bytesHex bs))
  | .failing message, _ => .error (.raised message)
  | .layout fields, bs => decodeLayout fields bs
  | .fn f, bs => f bs

/-- What a descriptor holds where its rule belongs. -/
inductive RuleSlot where
  /-- No rule. -/
  | missing
  /-- A value that cannot be applied to data. -/
  | inert (value : Datum)
  /-- A rule. -/
  | ready (rule : Rule)
  deriving Inhabited

/-- One data type of a registry. Follows `TypeDescriptor`,
`src/cayenne_lpp/model/data_type.py:12-35`. -/
structure Descriptor where
  typeId : Int
  name : String
  width : Int
  standard : Bool
  rule : RuleSlot
  deriving Inhabited

/-- The output key of a frame of this type on a channel: the name, an underscore, and the channel in
decimal. Follows `TypeDescriptor.key_for`, `src/cayenne_lpp/model/data_type.py:26-27`. -/
def Descriptor.outputKey (d : Descriptor) (channel : Nat) : String :=
  d.name ++ "_" ++ toString channel

/-- Why a registration is refused, in the order the checks run. -/
inductive Rejection where
  /-- The id is not an integer in `0..255` (a truth value is not an integer here). -/
  | idOutOfRange
  /-- The id belongs to a standard type. -/
  | standardType
  /-- The id belongs to a custom type already. -/
  | duplicate
  /-- The width is not an integer of at least one. -/
  | invalidWidth
  /-- The rule slot holds no rule. -/
  | missingRule
  deriving Repr, DecidableEq

/-- The word for a rejection in the registry's log. -/
def Rejection.word : Rejection → String
  | .idOutOfRange => "type_id_out_of_range"
  | .standardType => "standard_type"
  | .duplicate => "duplicate"
  | .invalidWidth => "invalid_width"
  | .missingRule => "missing_decode_rule"

end LowPowerPayload
