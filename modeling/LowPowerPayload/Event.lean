import LowPowerPayload.Descriptor
/-!
# Log events

Decoding, registration and catalog application report what they do as events. Each event has
a level and a message. A message that would put a non-integer in a hexadecimal field cannot be
written; `Event.message?` is then `none`.
-/

namespace LowPowerPayload

/-- The severity of an event. -/
inductive Level where
  | debug | info | warning
  deriving Repr, DecidableEq

/-- The name of a level, in capitals. -/
def Level.word : Level → String
  | .debug => "DEBUG"
  | .info => "INFO"
  | .warning => "WARNING"

/-- Something the decoder reports. -/
inductive Event where
  /-- A frame was decoded; `offset` is the index of its first data byte. -/
  | frameDecoded (channel typeId : Nat) (width : Int) (offset : Int)
  /-- Decoding stopped at a type id with no entry; `offset` is the index of the id. -/
  | unknownTypeFailed (typeId : Nat) (offset : Int)
  /-- Decoding stopped at a frame whose data runs past the end. -/
  | shortFrameFailed (name : String) (needed : Int) (available : Nat)
  /-- Decoding stopped with bytes left that make no header. -/
  | trailingFailed (count : Nat)
  /-- Decoding refused an empty payload. -/
  | emptyFailed
  /-- A custom type was registered. -/
  | registered (typeId : Int) (name : String) (width : Int)
  /-- A registration was refused. -/
  | rejected (typeId : Datum) (reason : Rejection)
  /-- A custom type was removed. -/
  | removed (typeId : Datum)
  /-- A removal of a standard type was refused. -/
  | removeRefused (typeId : Datum)
  /-- Catalog types that could not be registered were skipped. -/
  | catalogSkipped (ids : List Int)
  /-- A catalog was applied. -/
  | catalogApplied (file : String) (digest : String) (count : Nat)
  deriving Inhabited

/-- The level of each event. -/
def Event.level : Event → Level
  | .frameDecoded .. | .unknownTypeFailed .. | .shortFrameFailed .. | .trailingFailed _
  | .emptyFailed => .debug
  | .registered .. | .removed _ | .catalogApplied .. => .info
  | .rejected .. | .removeRefused _ | .catalogSkipped _ => .warning

/-- A loose value in a hexadecimal field: integers and truth values only. -/
def hexField? (d : Datum) : Option String := d.intValue?.map Text.hexTag

/-- A list of ids as `0x..` tags separated by a comma and a space. -/
def idList (ids : List Int) : String := ", ".intercalate (ids.map (fun t => "0x" ++ Text.hexTag t))

/-- The message of an event, if it can be written. -/
def Event.message? : Event → Option String
  | .frameDecoded channel typeId width offset =>
    some ("Decoded frame channel=" ++ toString channel ++ " type=0x" ++ Text.hexTag typeId ++
      " width=" ++ toString width ++ " offset=" ++ toString offset)
  | .unknownTypeFailed typeId offset =>
    some ("DECODE_FAILED code=unknown_data_type type_id=0x" ++ Text.hexTag typeId ++
      " offset=" ++ toString offset)
  | .shortFrameFailed name needed available =>
    some ("DECODE_FAILED code=bad_payload_format type=" ++ name ++ " need=" ++ toString needed ++
      " have=" ++ toString available)
  | .trailingFailed count =>
    some ("DECODE_FAILED code=bad_payload_format trailing=" ++ toString count)
  | .emptyFailed => some "DECODE_FAILED code=payload_empty"
  | .registered typeId name width =>
    some ("CUSTOM_TYPE_REGISTERED type_id=0x" ++ Text.hexTag typeId ++ " name=" ++ name ++
      " width=" ++ toString width)
  | .rejected typeId reason =>
    some ("CUSTOM_TYPE_REJECTED type_id=" ++ typeId.repr ++ " reason=" ++ reason.word)
  | .removed typeId => (hexField? typeId).map ("CUSTOM_TYPE_REMOVED type_id=0x" ++ ·)
  | .removeRefused typeId =>
    (hexField? typeId).map ("STANDARD_TYPE_REMOVE_REJECTED type_id=0x" ++ ·)
  | .catalogSkipped ids => some ("CATALOG_TYPES_SKIPPED ids=" ++ idList ids)
  | .catalogApplied file digest count =>
    some ("CATALOG_APPLIED file=" ++ file ++ " sha256=" ++ digest ++ " registered=" ++
      toString count)

end LowPowerPayload
