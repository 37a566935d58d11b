/-!
# YAML tokens

The lexer turns a YAML text into these tokens. Indentation becomes explicit: a block
collection opens with a start token and closes with `blockEnd`. A mapping key is announced by
`key` before the key's own tokens, and its value by `value`.
-/

namespace LowPowerPayload.Yaml

/-- What a directive line says: the YAML version, a tag handle and the prefix it stands for,
or something else, which is ignored. -/
inductive Directive where
  | version (major minor : Nat)
  | tagHandle (handle pfx : String)
  | other
  deriving Repr, BEq, Inhabited

/-- A token of a YAML text. -/
inductive Token where
  | streamEnd
  | directive (d : Directive)
  | documentStart
  | documentEnd
  | blockSequenceStart
  | blockMappingStart
  | blockEnd
  | flowSequenceStart
  | flowSequenceEnd
  | flowMappingStart
  | flowMappingEnd
  | blockEntry
  | flowEntry
  | key
  | value
  | alias (name : String)
  | anchor (name : String)
  /-- A tag: its handle (`!`, `!!`, or none for a verbatim tag) and suffix. -/
  | tag (handle : Option String) (suffix : String)
  /-- A scalar: its text, and whether it was written plain (unquoted). -/
  | scalar (text : String) (plain : Bool)
  deriving Repr, BEq, Inhabited

/-- Whether a token is one of the given kinds, compared by kind only. -/
def Token.sameKind : Token → Token → Bool
  | .directive _, .directive _ => true
  | .alias _, .alias _ => true
  | .anchor _, .anchor _ => true
  | .tag .., .tag .. => true
  | .scalar .., .scalar .. => true
  | a, b => a == b

/-- Whether a token is of one of the kinds listed. -/
def Token.isOneOf (t : Token) (kinds : List Token) : Bool := kinds.any t.sameKind

end LowPowerPayload.Yaml
