import LowPowerPayload.Yaml.Stamp
import LowPowerPayload.Text.Hex
/-!
# Tags of untagged scalars

A scalar written plain without a tag, or tagged `!`, gets the tag of the first YAML 1.1 form its
text has. Which forms are tried depends on the text's first character:

* `yYnNtTfFoO`: bool (`yes`, `no`, `true`, `false`, `on`, `off`, each also capitalised or in
  capitals), and for `nN` then null;
* `-+`: float, then int; a digit: float, int, then timestamp; `.`: float;
* `<`: merge (`<<`); `=`: value (`=`); `~` and the empty text: null (`~`, `null`, `Null`, `NULL`,
  or nothing);
* `!`, `&`, `*`: the tag `yaml`, for those three texts alone.

A form may match the whole text, or the text without one line break at its end. A text of no
form is a string. Every other node without a tag gets the string, sequence or mapping tag.
-/

namespace LowPowerPayload.Yaml

/-- The tag of a name in the standard tag space. -/
def standardTag (name : String) : String := "tag:yaml.org,2002:" ++ name

/-- Splits an optional leading sign off a text. -/
def splitSign (cs : List Char) : Bool × List Char :=
  match cs with
  | '-' :: rest => (true, rest)
  | '+' :: rest => (false, rest)
  | _ => (false, cs)

/-- A run of at least one character satisfying `p` or an underscore. -/
def isRunOf (p : Char → Bool) (cs : List Char) : Bool :=
  !cs.isEmpty && cs.all (fun c => p c || c == '_')

/-- Base-60 groups after the first: each `:` then one or two digits, the first of two below
6. -/
def isSexagesimalTail : List Char → Bool
  | [] => false
  | ':' :: rest =>
    let group := rest.takeWhile (· != ':')
    let more := rest.dropWhile (· != ':')
    let okGroup := match group with
      | [d] => d.isDigit
      | [a, b] => '0' ≤ a ∧ a ≤ '5' ∧ b.isDigit
      | _ => false
    okGroup && (more.isEmpty || isSexagesimalTail more)
  | _ => false
termination_by cs => cs.length
decreasing_by
  all_goals simp_all
  have h := (List.dropWhile_suffix (fun x => x != ':') (l := rest)).length_le
  omega

/-- `[1-9][0-9_]*`: a decimal numeral that does not start with zero. -/
def isPlainNumeral (cs : List Char) : Bool :=
  match cs with
  | c :: rest => '1' ≤ c && c ≤ '9' && rest.all (fun d => d.isDigit || d == '_')
  | [] => false

/-- Whether a text is a truth word. -/
def isBoolForm (cs : List Char) : Bool :=
  [ "yes", "Yes", "YES", "no", "No", "NO", "true", "True", "TRUE", "false", "False", "FALSE",
    "on", "On", "ON", "off", "Off", "OFF"].contains (String.ofList cs)

/-- Whether a text has the YAML 1.1 integer form. -/
def isIntForm (text : List Char) : Bool :=
  let (_, body) := splitSign text
  match body with
  | '0' :: 'b' :: rest => isRunOf (fun c => c == '0' || c == '1') rest
  | '0' :: 'x' :: rest => isRunOf (fun c => (Text.hexValue? c).isSome) rest
  | ['0'] => true
  | '0' :: rest => isRunOf (fun c => '0' ≤ c ∧ c ≤ '7') rest
  | _ =>
    let head := body.takeWhile (· != ':')
    let tail := body.dropWhile (· != ':')
    isPlainNumeral head && (tail.isEmpty || isSexagesimalTail tail)

/-- `[eE][-+][0-9]+` or nothing. -/
def isExponentForm : List Char → Bool
  | [] => true
  | e :: s :: ds => (e == 'e' || e == 'E') && (s == '-' || s == '+') && !ds.isEmpty &&
      ds.all Char.isDigit
  | _ => false

/-- Whether a text has the YAML 1.1 float form. -/
def isFloatForm (text : List Char) : Bool :=
  let (_, body) := splitSign text
  let signed := text.head? == some '-' || text.head? == some '+'
  let word := String.ofList body
  if word == ".inf" || word == ".Inf" || word == ".INF" then true
  else if word == ".nan" || word == ".NaN" || word == ".NAN" then !signed
  else
    let isMark (c : Char) : Bool := c == 'e' || c == 'E'
    let mant := body.takeWhile (fun c => !isMark c)
    let expPart := body.dropWhile (fun c => !isMark c)
    let whole := mant.takeWhile (· != '.')
    let frac := (mant.dropWhile (· != '.')).drop 1
    let hasPoint := mant.contains '.'
    let decimal :=
      hasPoint && isExponentForm expPart && frac.all (fun c => c.isDigit || c == '_') &&
        (match whole with
          | d :: rest => d.isDigit && rest.all (fun c => c.isDigit || c == '_')
          | [] => !signed && (match frac with
            | d :: _ => d.isDigit
            | [] => false))
    let sexagesimal :=
      hasPoint && expPart.isEmpty && frac.all (fun c => c.isDigit || c == '_') &&
        (let head := whole.takeWhile (· != ':')
         let tail := whole.dropWhile (· != ':')
         (match head with
           | d :: rest => d.isDigit && rest.all (fun c => c.isDigit || c == '_')
           | [] => false) && isSexagesimalTail tail)
    decimal || sexagesimal

/-- Whether a text spells null. -/
def isNullForm (cs : List Char) : Bool :=
  cs.isEmpty || ["~", "null", "Null", "NULL"].contains (String.ofList cs)

/-- The forms tried for a text that starts with a character (or is empty), in order: each
tag with its form. -/
def formsFor (first : Option Char) : List (String × (List Char → Bool)) :=
  let bool := (standardTag "bool", isBoolForm)
  let float := (standardTag "float", isFloatForm)
  let int := (standardTag "int", isIntForm)
  let null := (standardTag "null", isNullForm)
  match first with
  | none => [null]
  | some c =>
    if "yYtTfFoO".toList.contains c then [bool]
    else if c == 'n' || c == 'N' then [bool, null]
    else if c == '-' || c == '+' then [float, int]
    else if c.isDigit then [float, int, (standardTag "timestamp", isStampForm)]
    else if c == '.' then [float]
    else if c == '<' then [(standardTag "merge", (· == ['<', '<']))]
    else if c == '=' then [(standardTag "value", (· == ['=']))]
    else if c == '~' then [null]
    else if c == '!' || c == '&' || c == '*' then
      [(standardTag "yaml", (fun cs => cs == ['!'] || cs == ['&'] || cs == ['*']))]
    else []

/-- Whether a form matches a text: the whole text, or the text before one final line break. -/
def matchesForm (form : List Char → Bool) (cs : List Char) : Bool :=
  form cs || (cs.getLast? == some '\n' && form cs.dropLast)

/-- The tag of a scalar whose type is found from its text. -/
def resolveScalar (text : String) : String :=
  let cs := text.toList
  match (formsFor cs.head?).find? (fun f => matchesForm f.2 cs) with
  | some (tag, _) => tag
  | none => standardTag "str"

end LowPowerPayload.Yaml
