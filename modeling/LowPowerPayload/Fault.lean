import LowPowerPayload.Text.Numeral
/-!
# Faults of the primitive operations

A `Fault` is a failure that the codec, a decode rule, or a conversion of a loose value raises on
its own, before any payload-level meaning is attached to it. Each fault belongs to one
`FaultKind`, and `Fault.message` holds its wording.
-/

namespace LowPowerPayload

/-- The kinds of primitive failure. -/
inductive FaultKind where
  /-- A value of the right type but an unusable content. -/
  | value
  /-- A value of the wrong type. -/
  | type
  /-- An index past the end of a byte string. -/
  | index
  /-- A division by zero. -/
  | zeroDivision
  /-- A number too large for the target type. -/
  | overflow
  /-- An operation that has no implementation for the given name. -/
  | unsupported
  /-- A result too large for the memory there is. -/
  | memory
  /-- A value nested deeper than the levels there are to go through it. -/
  | recursion
  deriving Repr, DecidableEq

/-- A primitive failure. -/
inductive Fault where
  /-- A byte was read past the end of the data. -/
  | indexOutOfRange
  /-- A primitive got `got` bytes where its encoding takes `expected`. -/
  | lengthMismatch (got expected : Nat) (encode : String)
  /-- No primitive encoding has this name. -/
  | unknownEncoding (encode : String)
  /-- A division by a zero divisor. -/
  | divisionByZero
  /-- A sign extension to zero or fewer bits. -/
  | negativeShift
  /-- A byte list item of the named type is not an integer. -/
  | notInteger (typeName : String)
  /-- A byte list item lies outside `0..255`. -/
  | byteRange
  /-- A lookup key of the named type cannot be hashed. -/
  | unhashable (typeName : String)
  /-- A decode rule failed on purpose with this message. -/
  | raised (message : String)
  /-- A rule slot holds a value of the named type that cannot be called. -/
  | notCallable (typeName : String)
  /-- An integer too large for a double. -/
  | floatOverflow
  /-- A text that is no decimal number, quoted as in a message. -/
  | notFloatText (quoted : String)
  /-- A value of the named type that has no reading as a double. -/
  | notFloatArgument (typeName : String)
  /-- A power of two with more digits than an integer may have. -/
  | tooManyDigits
  /-- A power of two too large to be stored. -/
  | outOfMemory
  /-- An integer with too many digits to be written in decimal. -/
  | tooLongToWrite
  /-- Collections nested deeper than the levels there are to write them. -/
  | nestedTooDeep
  deriving Repr, DecidableEq

/-- The kind of each fault. -/
def Fault.kind : Fault → FaultKind
  | .indexOutOfRange => .index
  | .lengthMismatch .. => .value
  | .unknownEncoding _ => .unsupported
  | .divisionByZero => .zeroDivision
  | .negativeShift => .value
  | .notInteger _ => .type
  | .byteRange => .value
  | .unhashable _ => .type
  | .raised _ => .value
  | .notCallable _ => .type
  | .floatOverflow => .overflow
  | .notFloatText _ => .value
  | .notFloatArgument _ => .type
  | .tooManyDigits => .overflow
  | .outOfMemory => .memory
  | .tooLongToWrite => .value
  | .nestedTooDeep => .recursion

/-- The wording of each fault. -/
def Fault.message : Fault → String
  | .indexOutOfRange => "index out of range"
  | .lengthMismatch got expected encode =>
    "Raw bytes length " ++ toString got ++ " != expected " ++ toString expected ++
      " for '" ++ encode ++ "'"
  | .unknownEncoding encode => "Unknown encode type '" ++ encode ++ "'"
  | .divisionByZero => "float division by zero"
  | .negativeShift => "negative shift count"
  | .notInteger t => "'" ++ t ++ "' object cannot be interpreted as an integer"
  | .byteRange => "bytes must be in range(0, 256)"
  | .unhashable t => "unhashable type: '" ++ t ++ "'"
  | .raised message => message
  | .notCallable t => "'" ++ t ++ "' object is not callable"
  | .floatOverflow => "int too large to convert to float"
  | .notFloatText quoted => "could not convert string to float: " ++ quoted
  | .notFloatArgument t => "float() argument must be a string or a real number, not '" ++ t ++ "'"
  | .tooManyDigits => "too many digits in integer"
  | .outOfMemory => ""
  | .tooLongToWrite => Text.tooLongToWriteMessage
  | .nestedTooDeep => "maximum recursion depth exceeded while getting the repr of an object"

end LowPowerPayload
