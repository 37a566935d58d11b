import LowPowerPayload.Text.Quote
/-!
# Why a YAML text does not load

Loading a YAML text stops at the first problem it meets. Most are problems of the text: it is
not well-formed YAML, or a node cannot be built (a collection where a scalar must stand, a key
that cannot be hashed, a tag with no meaning). The others are problems of a value spelled by a
scalar, each with its own kind and message:

* a number, date or code point out of range, or digits that spell no number (`value`);
* a `bool` scalar that is no truth word (`unknownWord`, showing the lowered word);
* an `int` or `float` scalar with no digits left once its underscores and sign are gone
  (`emptyNumber`);
* a `timestamp` scalar that has no timestamp form (`noTimestamp`);
* an escaped code point too large for the machine integer it is read into (`codeTooLarge`);
* a base-60 `float` scalar with so many groups that the weight of the first one has no double
  (`weightTooLarge`);
* a scalar whose value is looked up through a cycle of `=` keys, which never ends (`endless`).
-/

namespace LowPowerPayload.Yaml

/-- Why a YAML text could not be loaded. -/
inductive Failure where
  /-- The text is not a well-formed YAML document, or a node of it cannot be built; the reason
  says where it went wrong. -/
  | malformed (reason : String)
  /-- A value out of range, or digits that spell no number; the message says which. -/
  | value (message : String)
  /-- A `bool` scalar whose lowered text is no truth word. -/
  | unknownWord (word : String)
  /-- An `int` or `float` scalar with nothing left to read. -/
  | emptyNumber
  /-- A `timestamp` scalar without the timestamp form. -/
  | noTimestamp
  /-- An escaped code point beyond the largest machine integer. -/
  | codeTooLarge
  /-- A base-60 group weight beyond the largest double. -/
  | weightTooLarge
  /-- A scalar value looked up through a cycle. -/
  | endless
  deriving Repr, DecidableEq

/-- How a failure is raised. -/
inductive FailureKind where
  | malformed
  | value
  | key
  | index
  | attribute
  | overflow
  | recursion
  deriving Repr, DecidableEq

namespace Failure

/-- How the failure is raised. -/
def kind : Failure → FailureKind
  | .malformed _ => .malformed
  | .value _ => .value
  | .unknownWord _ => .key
  | .emptyNumber => .index
  | .noTimestamp => .attribute
  | .codeTooLarge => .overflow
  | .weightTooLarge => .overflow
  | .endless => .recursion

/-- The message of the failure; a malformed text has none. -/
def message? : Failure → Option String
  | .malformed _ => none
  | .value m => some m
  | .unknownWord w => some (Text.quote w)
  | .emptyNumber => some "string index out of range"
  | .noTimestamp => some "'NoneType' object has no attribute 'groupdict'"
  | .codeTooLarge => some "Python int too large to convert to C int"
  | .weightTooLarge => some "int too large to convert to float"
  | .endless => some "maximum recursion depth exceeded"

end Failure

end LowPowerPayload.Yaml
