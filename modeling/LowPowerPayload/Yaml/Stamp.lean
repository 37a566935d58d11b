import LowPowerPayload.Timestamp
/-!
# Timestamp scalars

A YAML timestamp is written `YYYY-MM-DD`, or as a date, a `T` or blanks, and a time of day
`H:MM:SS`, with an optional fraction of a second after a point and an optional zone: `Z`, or a
sign, hours and optional minutes (`-5`, `+05:30`), possibly after blanks. A date with a time
may write its month and day with one digit.

`stampOf?` reads the parts of such a text; the digits of a fraction past the sixth are
dropped. `isStampForm` says whether a plain scalar has the form, where a date alone must
write its month and day with two digits.
-/

namespace LowPowerPayload.Yaml

/-- The value of a run of ASCII digits. -/
def digitsValue (cs : List Char) : Nat := cs.foldl (fun acc c => 10 * acc + (c.toNat - 48)) 0

/-- At most `most` leading ASCII digits of a text, and the rest of it. -/
def takeDigits : Nat → List Char → List Char × List Char
  | 0, cs => ([], cs)
  | _ + 1, [] => ([], [])
  | n + 1, c :: rest =>
    if c.isDigit then
      let (ds, r) := takeDigits n rest
      (c :: ds, r)
    else ([], c :: rest)

/-- A number of `least` to `most` leading digits, and the rest of the text. -/
def number (least most : Nat) (cs : List Char) : Option (Nat × List Char) :=
  let (ds, rest) := takeDigits most cs
  if least ≤ ds.length then some (digitsValue ds, rest) else none

/-- The rest of a text after a leading character. -/
def after (c : Char) : List Char → Option (List Char)
  | d :: rest => if c == d then some rest else none
  | [] => none

/-- Whether a character is a blank inside a line: a space or a tab. -/
def isLineBlank (c : Char) : Bool := c == ' ' || c == '\t'

/-- The offset in minutes a zone spells, the whole text being the zone. -/
def zoneOf? : List Char → Option Int
  | ['Z'] => some 0
  | s :: rest => do
    if s != '+' && s != '-' then none
    let (h, r) ← number 1 2 rest
    let m ← match r with
      | [] => some 0
      | ':' :: r' => match number 2 2 r' with
        | some (m, []) => some m
        | _ => none
      | _ => none
    let total : Int := 60 * h + m
    return if s == '-' then -total else total
  | [] => none

/-- The microseconds of the digits of a fraction of a second. -/
def microsOf (ds : List Char) : Nat :=
  let six := ds.take 6
  digitsValue (six ++ List.replicate (6 - six.length) '0')

/-- The time of day a text spells, after the date and its separator. -/
def clockOf? (cs : List Char) : Option TimeOfDay := do
  let (hour, r) ← number 1 2 cs
  let r ← after ':' r
  let (minute, r) ← number 2 2 r
  let r ← after ':' r
  let (second, r) ← number 2 2 r
  let (micro, r) := match r with
    | '.' :: rest => (microsOf (rest.takeWhile Char.isDigit), rest.dropWhile Char.isDigit)
    | _ => (0, r)
  let offset ← match r with
    | [] => some none
    | _ => (zoneOf? (r.dropWhile isLineBlank)).map some
  return ⟨hour, minute, second, micro, offset⟩

/-- The timestamp a text spells, its parts not yet checked. -/
def stampOf? (cs : List Char) : Option Timestamp := do
  let (year, r) ← number 4 4 cs
  let r ← after '-' r
  let (month, r) ← number 1 2 r
  let r ← after '-' r
  let (day, r) ← number 1 2 r
  match r with
  | [] => return ⟨year, month, day, none⟩
  | c :: rest =>
    let clock :=
      if c == 'T' || c == 't' then rest
      else if isLineBlank c then rest.dropWhile isLineBlank
      else c :: rest
    if clock.length == r.length then none
    return ⟨year, month, day, some (← clockOf? clock)⟩

/-- Whether a plain scalar has the timestamp form. -/
def isStampForm (cs : List Char) : Bool :=
  match stampOf? cs with
  | some t => t.time.isSome || cs.length == 10
  | none => false

end LowPowerPayload.Yaml
