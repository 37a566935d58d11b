import LowPowerPayload.Frame
/-!
# How payload errors present themselves

Every payload error carries a stable text code, a numeric outcome code, a message, an optional
hint, and details as ordered named values. `DecodeError.report` gives all five.
-/

namespace LowPowerPayload

/-- What an error shows of itself. -/
structure Report where
  /-- The stable text code. -/
  code : String
  /-- The numeric outcome code of a decoding error. -/
  outcome : Option Nat
  message : String
  hint : Option String
  details : List (String × Datum)

/-- The hint of an unknown type id. -/
def unknownTypeHint : String := "Register the type with add_custom_type() or a types catalog."

/-- `0x` and the id's two hexadecimal digits. -/
def idTag (typeId : Int) : String := "0x" ++ Text.hexTag typeId

/-- The report of a payload error. -/
def DecodeError.report : DecodeError → Report
  | .empty =>
    ⟨"payload_empty", some 4, "Payload is empty",
      some "An LPP payload holds at least one channel/type header.", []⟩
  | .unknownType typeId offset =>
    ⟨"unknown_data_type", some 2, "Unknown data type " ++ idTag typeId, some unknownTypeHint,
      [("type_id", .int typeId), ("offset", match offset with
        | some o => .int o
        | none => .null)]⟩
  | .insufficient _ typeId offset needed available =>
    ⟨"bad_payload_format", some 3, "Bad payload format: insufficient bytes", none,
      [("reason", .text "insufficient bytes"), ("offset", .int offset), ("type_id", .int typeId),
        ("needed", .int needed), ("available", .int available)]⟩
  | .trailing offset count =>
    ⟨"bad_payload_format", some 3, "Bad payload format: unprocessed trailing bytes", none,
      [("reason", .text "unprocessed trailing bytes"), ("offset", .int offset),
        ("trailing", .int count)]⟩
  | .noRule name typeId =>
    ⟨"unexpected", some 1, "Custom type '" ++ name ++ "' (" ++ idTag typeId ++
      ") has no decode rule", none, [("type_id", .int typeId)]⟩
  | .ruleFailed name typeId cause =>
    ⟨"unexpected", some 1, "Decode rule for custom type '" ++ name ++ "' (" ++ idTag typeId ++
      ") failed: " ++ cause.message, none, [("type_id", .int typeId)]⟩
  | .endless offset =>
    ⟨"unexpected", some 1, "Frame at " ++ toString offset ++ " is read again without end", none,
      [("offset", .int offset)]⟩

end LowPowerPayload
