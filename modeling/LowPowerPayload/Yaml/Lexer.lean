import LowPowerPayload.Yaml.Token
import LowPowerPayload.Yaml.Failure
/-!
# Lexing YAML text into tokens

The lexer reads a YAML text from left to right and emits tokens. It keeps the column of every
open block collection on a stack: a line that starts left of the innermost one closes it with
`blockEnd`, and a key or entry further right opens a new one.

A scalar, a quoted scalar, an alias, an anchor, a tag or a flow collection may turn out to be
a mapping key. The lexer notes where such a *simple key* starts. When a `:` follows on the
same line, it inserts `key` (and, for a new block mapping, `blockMappingStart`) before the
noted token. A simple key that a block mapping requires must be finished on its line.

Tabs never indent: outside quoted and block scalars and comments a tab cannot start a token.
-/

namespace LowPowerPayload.Yaml

/-- Where a simple key may start. -/
structure SimpleKey where
  /-- The number of tokens emitted before it. -/
  tokenNumber : Nat
  /-- Whether a block mapping needs this key to be a key. -/
  required : Bool
  index : Nat
  line : Nat
  column : Nat

/-- The lexer's state. -/
structure Lexer where
  src : Array Char
  pos : Nat
  line : Nat
  column : Nat
  flowLevel : Nat
  indent : Int
  indents : List Int
  allowSimpleKey : Bool
  keys : List (Nat × SimpleKey)
  tokens : Array Token
  done : Bool

/-- Scanning steps: they change the state or fail. -/
abbrev LexM := ExceptT Failure (StateM Lexer)

/-- The character that stands past the end of the text. -/
def endChar : Char := Char.ofNat 0

/-- Whether a character breaks a line. -/
def isBreak (c : Char) : Bool :=
  c == '\r' || c == '\n' || c.toNat == 0x85 || c.toNat == 0x2028 || c.toNat == 0x2029

/-- A line break or the end of the text. -/
def isBreakOrEnd (c : Char) : Bool := c.toNat == 0 || isBreak c

/-- A space, a tab, a line break, or the end of the text. -/
def isBlankOrEnd (c : Char) : Bool := c == ' ' || c == '\t' || isBreakOrEnd c

/-- A flow indicator: comma, brackets, braces. -/
def isFlowIndicator (c : Char) : Bool :=
  c == ',' || c == '[' || c == ']' || c == '{' || c == '}'

/-- Whether a character may appear in an anchor or alias name. -/
def isNameChar (c : Char) : Bool := c.isAlphanum || c == '-' || c == '_'

/-- Whether a character may appear in a tag. -/
def isUriChar (c : Char) : Bool :=
  c.isAlphanum || "-;/?:@&=+$,_.!~*()[]%".toList.contains c || c == '\''

/-- Characters that cannot start a plain scalar on their own. -/
def isPlainStop (c : Char) : Bool :=
  isBlankOrEnd c || "-?:,[]#&*!|>'\"%@".toList.contains c || c == '{' || c == '}' ||
    c.toNat == 96

/-- The length of the run of characters satisfying `p` from index `start`. -/
def runLength (src : Array Char) (start : Nat) (p : Char → Bool) : Nat :=
  go start (src.size + 1 - start)
where
  /-- Counts on from index `i`, at most `fuel` more characters. -/
  go (i : Nat) : Nat → Nat
    | 0 => i - start
    | fuel + 1 => if i < src.size ∧ p (src.getD i endChar) then go (i + 1) fuel else i - start

namespace Lex

/-- The character `k` places ahead. -/
def peekAt (k : Nat) : LexM Char := do
  let s ← get
  return s.src.getD (s.pos + k) endChar

/-- The current character. -/
def peek : LexM Char := peekAt 0

/-- The number of characters left, plus one. -/
def remaining : LexM Nat := do
  let s ← get
  return s.src.size + 1 - s.pos

/-- Moves one character on, keeping line and column. -/
def advanceOne : LexM Unit := modify fun s =>
  let ch := s.src.getD s.pos endChar
  let next := s.src.getD (s.pos + 1) endChar
  let newLine := ch == '\n' || ch.toNat == 0x85 || ch.toNat == 0x2028 ||
    ch.toNat == 0x2029 || (ch == '\r' && next != '\n')
  { s with pos := s.pos + 1,
           line := if newLine then s.line + 1 else s.line,
           column := if newLine then 0 else if ch.toNat == 0xFEFF then s.column else s.column + 1 }

/-- Moves `n` characters on. -/
def advance : Nat → LexM Unit
  | 0 => pure ()
  | n + 1 => do advanceOne; advance n

/-- The next `n` characters as text. -/
def ahead (n : Nat) : LexM String := do
  let s ← get
  return String.ofList (s.src.extract s.pos (s.pos + n)).toList

/-- The length of the run of characters satisfying `p` from `k` places ahead. -/
def runAt (k : Nat) (p : Char → Bool) : LexM Nat := do
  let s ← get
  return runLength s.src (s.pos + k) p

/-- Moves past characters satisfying `p`. -/
def skipWhile (p : Char → Bool) : LexM Unit := do
  advance (← runAt 0 p)

/-- Appends a token. -/
def emit (t : Token) : LexM Unit := modify fun s => { s with tokens := s.tokens.push t }

/-- Inserts a token before the token of a given number. -/
def insertAt (i : Nat) (t : Token) : LexM Unit := modify fun s =>
  { s with tokens := (s.tokens.toList.take i ++ t :: s.tokens.toList.drop i).toArray }

/-- Sets whether a simple key may start here. -/
def setAllow (b : Bool) : LexM Unit := modify fun s => { s with allowSimpleKey := b }

/-- Reads a line break, giving `\n` for CR, LF, CR LF and NEL, itself for the line and
paragraph separators, and the empty text where no break stands. -/
def lineBreak : LexM String := do
  let ch ← peek
  if ch == '\r' || ch == '\n' || ch.toNat == 0x85 then
    if ch == '\r' && (← peekAt 1) == '\n' then advance 2 else advance 1
    return "\n"
  else if ch.toNat == 0x2028 || ch.toNat == 0x2029 then
    advance 1
    return String.singleton ch
  else return ""

/-- Whether a document marker (`---` or `...` then a blank) stands here. -/
def atDocumentMarker : LexM Bool := do
  let p ← ahead 3
  return (p == "---" || p == "...") && isBlankOrEnd (← peekAt 3)

/-- Skips spaces, comments and line breaks up to the next token. -/
def skipToToken : LexM Unit := do
  if (← get).pos == 0 && (← peek).toNat == 0xFEFF then advance 1
  loop (← remaining)
where
  /-- One line's worth of spaces and comment, then its break. -/
  loop : Nat → LexM Unit
    | 0 => pure ()
    | fuel + 1 => do
      skipWhile (· == ' ')
      if (← peek) == '#' then skipWhile (fun c => !isBreakOrEnd c)
      if (← lineBreak) != "" then
        if (← get).flowLevel == 0 then setAllow true
        loop fuel

/-- Forgets simple keys that can no longer be finished; a required one is an error. -/
def dropStaleKeys : LexM Unit := do
  let s ← get
  let stale (k : SimpleKey) : Bool := k.line != s.line || s.pos - k.index > 1024
  if s.keys.any (fun (_, k) => stale k && k.required) then throw (.malformed "could not find expected ':'")
  set { s with keys := s.keys.filter (fun (_, k) => !stale k) }

/-- Forgets the simple key of the current flow level; a required one is an error. -/
def forgetKey : LexM Unit := do
  let s ← get
  match s.keys.lookup s.flowLevel with
  | some k =>
    if k.required then throw (.malformed "could not find expected ':'")
    set { s with keys := s.keys.filter (fun (p : Nat × SimpleKey) => p.1 != s.flowLevel) }
  | none => pure ()

/-- Notes that the next token may start a simple key. -/
def noteKey : LexM Unit := do
  let s ← get
  let required := s.flowLevel == 0 && s.indent == (s.column : Int)
  if s.allowSimpleKey then
    forgetKey
    let s ← get
    let k : SimpleKey := ⟨s.tokens.size, required, s.pos, s.line, s.column⟩
    set { s with keys := s.keys.filter (fun (p : Nat × SimpleKey) => p.1 != s.flowLevel) ++ [(s.flowLevel, k)] }

/-- Closes the block collections that start right of a column. -/
def closeBlocks (column : Int) : LexM Unit := do
  if (← get).flowLevel == 0 then loop ((← get).indents.length + 1)
where
  /-- Closes one collection at a time. -/
  loop : Nat → LexM Unit
    | 0 => pure ()
    | fuel + 1 => do
      let s ← get
      if s.indent > column then
        match s.indents with
        | i :: rest =>
          set { s with indent := i, indents := rest, tokens := s.tokens.push .blockEnd }
          loop fuel
        | [] => set { s with indent := -1 }

/-- Opens a block collection at a column right of the current one. -/
def openBlock (column : Int) : LexM Bool := do
  let s ← get
  if s.indent < column then
    set { s with indents := s.indent :: s.indents, indent := column }
    return true
  else return false

/-- The end of the text. -/
def endOfText : LexM Unit := do
  closeBlocks (-1)
  forgetKey
  modify fun s => { s with allowSimpleKey := false, keys := [] }
  emit .streamEnd
  modify fun s => { s with done := true }

/-- The value of a run of hexadecimal digits. -/
def hexValue (s : String) : Option Nat :=
  s.toList.foldl (fun acc c => acc.bind fun v =>
    if c.isDigit then some (16 * v + (c.toNat - 48))
    else if 'a' ≤ c ∧ c ≤ 'f' then some (16 * v + (c.toNat - 87))
    else if 'A' ≤ c ∧ c ≤ 'F' then some (16 * v + (c.toNat - 55))
    else none) (some 0)

/-- Whether a character may follow a directive's name or value: the end of the text, a space
or a line break. -/
def isDirectiveEnd (c : Char) : Bool := c.toNat == 0 || c == ' ' || isBreak c

/-- A run of decimal digits, as a number. -/
def directiveNumber : LexM Nat := do
  let n ← runAt 0 Char.isDigit
  if n == 0 then throw (.malformed "expected a digit")
  let ds ← ahead n
  advance n
  return ds.foldl (fun acc c => 10 * acc + (c.toNat - 48)) 0

/-- A tag handle: `!`, `!!`, or `!word!`. -/
def tagHandle : LexM String := do
  if (← peek) != '!' then throw (.malformed "expected '!'")
  if (← peekAt 1) == ' ' then
    advance 1
    return "!"
  let n ← runAt 1 isNameChar
  if (← peekAt (n + 1)) != '!' then throw (.malformed "expected '!'")
  let h ← ahead (n + 2)
  advance (n + 2)
  return h

/-- A run of `%XX` escapes, decoded as UTF-8. -/
def uriEscapes : LexM String := do
  let codes ← collect [] (← remaining)
  match String.fromUTF8? (ByteArray.mk codes.toArray) with
  | some s => return s
  | none => throw (.malformed "an escaped URI is not UTF-8")
where
  /-- Reads the escapes one by one, their bytes reversed so far. -/
  collect (acc : List UInt8) : Nat → LexM (List UInt8)
    | 0 => pure acc.reverse
    | fuel + 1 => do
      if (← peek) != '%' then return acc.reverse
      advance 1
      let digits ← ahead 2
      match hexValue digits with
      | some code =>
        if digits.length != 2 then throw (.malformed "expected a URI escape")
        advance 2
        collect (code.toUInt8 :: acc) fuel
      | none => throw (.malformed "expected a URI escape")

/-- The characters of a tag's URI, its escapes decoded; at least one must stand. -/
def tagUri : LexM String := do
  let (text, any) ← go "" false (← remaining)
  if !any then throw (.malformed "expected a URI")
  return text
where
  /-- Reads on, with whether anything was read. -/
  go (acc : String) (any : Bool) : Nat → LexM (String × Bool)
    | 0 => pure (acc, any)
    | fuel + 1 => do
      let ch ← peek
      if ch == '%' then
        let e ← uriEscapes
        go (acc ++ e) true fuel
      else if isUriChar ch then
        advance 1
        go (acc.push ch) true fuel
      else pure (acc, any)

/-- The rest of a directive line: spaces, an optional comment, and the line break. -/
def directiveTail : LexM Unit := do
  skipWhile (· == ' ')
  if (← peek) == '#' then skipWhile (fun c => !isBreakOrEnd c)
  if !isBreakOrEnd (← peek) then throw (.malformed "expected a comment or a line break")
  let _ ← lineBreak

/-- A directive line: `%YAML major.minor`, `%TAG handle prefix`, or another name whose value
is ignored. -/
def directiveLine : LexM Unit := do
  closeBlocks (-1)
  forgetKey
  setAllow false
  advance 1
  let n ← runAt 0 isNameChar
  if n == 0 then throw (.malformed "expected a directive name")
  let name ← ahead n
  advance n
  if !isDirectiveEnd (← peek) then throw (.malformed "expected a blank after a directive name")
  let d ← if name == "YAML" then do
      skipWhile (· == ' ')
      let major ← directiveNumber
      if (← peek) != '.' then throw (.malformed "expected a digit or '.'")
      advance 1
      let minor ← directiveNumber
      if !isDirectiveEnd (← peek) then throw (.malformed "expected a digit or ' '")
      pure (Directive.version major minor)
    else if name == "TAG" then do
      skipWhile (· == ' ')
      let handle ← tagHandle
      if (← peek) != ' ' then throw (.malformed "expected ' '")
      skipWhile (· == ' ')
      let pfx ← tagUri
      if !isDirectiveEnd (← peek) then throw (.malformed "expected ' '")
      pure (Directive.tagHandle handle pfx)
    else do
      skipWhile (fun c => !isBreakOrEnd c)
      pure Directive.other
  directiveTail
  emit (.directive d)

/-- A document start or end marker. -/
def documentMarker (t : Token) : LexM Unit := do
  closeBlocks (-1)
  forgetKey
  setAllow false
  advance 3
  emit t

/-- An opening bracket or brace. -/
def openFlow (t : Token) : LexM Unit := do
  noteKey
  modify fun s => { s with flowLevel := s.flowLevel + 1, allowSimpleKey := true }
  advance 1
  emit t

/-- A closing bracket or brace. -/
def closeFlow (t : Token) : LexM Unit := do
  forgetKey
  modify fun s => { s with flowLevel := s.flowLevel - 1, allowSimpleKey := false }
  advance 1
  emit t

/-- A comma in a flow collection. -/
def flowSeparator : LexM Unit := do
  setAllow true
  forgetKey
  advance 1
  emit .flowEntry

/-- A `-` entry of a block sequence. -/
def sequenceDash : LexM Unit := do
  let s ← get
  if s.flowLevel == 0 then
    if !s.allowSimpleKey then throw (.malformed "sequence entries are not allowed here")
    if ← openBlock s.column then emit .blockSequenceStart
  setAllow true
  forgetKey
  advance 1
  emit .blockEntry

/-- A `?` complex key. -/
def keyMark : LexM Unit := do
  let s ← get
  if s.flowLevel == 0 then
    if !s.allowSimpleKey then throw (.malformed "mapping keys are not allowed here")
    if ← openBlock s.column then emit .blockMappingStart
  setAllow (s.flowLevel == 0)
  forgetKey
  advance 1
  emit .key

/-- A `:` value indicator, which may finish a noted simple key. -/
def valueMark : LexM Unit := do
  let s ← get
  match s.keys.lookup s.flowLevel with
  | some k =>
    set { s with keys := s.keys.filter (fun (p : Nat × SimpleKey) => p.1 != s.flowLevel) }
    insertAt k.tokenNumber .key
    if s.flowLevel == 0 then
      if ← openBlock k.column then insertAt k.tokenNumber .blockMappingStart
    setAllow false
  | none =>
    if s.flowLevel == 0 then
      if !s.allowSimpleKey then throw (.malformed "mapping values are not allowed here")
      if ← openBlock s.column then emit .blockMappingStart
    setAllow (s.flowLevel == 0)
    forgetKey
  advance 1
  emit .value

/-- An alias `*name` or anchor `&name`. -/
def nameToken (isAlias : Bool) : LexM Token := do
  advance 1
  let n ← runAt 0 isNameChar
  if n == 0 then throw (.malformed "expected an anchor name")
  let name ← ahead n
  advance n
  let ch ← peek
  if !(isBlankOrEnd ch || "?:,]%@".toList.contains ch || ch == '}' || ch.toNat == 96) then
    throw (.malformed "unexpected character after an anchor name")
  return if isAlias then .alias name else .anchor name

/-- The end of a tag: a space, a line break or the end of the text. -/
def isTagEnd (c : Char) : Bool := c.toNat == 0 || c == ' ' || isBreak c

/-- A tag `!suffix`, `!!suffix`, `!handle!suffix`, `!<uri>` or `!`. A second `!` before the
next space or line break (a tab does not end the search) marks a handle. -/
def tagToken : LexM Token := do
  let ch ← peekAt 1
  let t : Token ← if ch == '<' then do
      advance 2
      let suffix ← tagUri
      if (← peek) != '>' then throw (.malformed "expected '>'")
      advance 1
      pure (.tag none suffix)
    else if isBlankOrEnd ch then do
      advance 1
      pure (.tag none "!")
    else do
      let n ← runAt 1 (fun c => !isTagEnd c && c != '!')
      let handle ← if (← peekAt (n + 1)) == '!' then tagHandle
        else do
          advance 1
          pure "!"
      let suffix ← tagUri
      pure (.tag (some handle) suffix)
  if !isTagEnd (← peek) then throw (.malformed "expected a blank after a tag")
  return t

/-- Spaces and line breaks inside a plain scalar: the text they fold to, or `none` at a
document marker. -/
def plainGap : LexM (Option String) := do
  let n ← runAt 0 (· == ' ')
  let whitespaces ← ahead n
  advance n
  if isBreak (← peek) then
    let br ← lineBreak
    setAllow true
    if ← atDocumentMarker then return none
    match ← breaks [] (← remaining) with
    | none => return none
    | some bs =>
      let head := if br != "\n" then br else if bs.isEmpty then " " else ""
      return some (head ++ String.join bs)
  else return some whitespaces
where
  /-- Further empty lines, each as its break. -/
  breaks (acc : List String) : Nat → LexM (Option (List String))
    | 0 => pure (some acc.reverse)
    | fuel + 1 => do
      let ch ← peek
      if ch == ' ' then
        advance 1
        breaks acc fuel
      else if isBreak ch then
        let b ← lineBreak
        if ← atDocumentMarker then return none
        breaks (b :: acc) fuel
      else return some acc.reverse

/-- A plain (unquoted) scalar, possibly over several lines. -/
def plainScalar : LexM Token := do
  let indent := (← get).indent + 1
  let text ← loop indent "" "" (← remaining)
  return .scalar text true
where
  /-- Reads one run of non-blank text and the spaces after it. -/
  loop (indent : Int) (acc spaces : String) : Nat → LexM String
    | 0 => pure acc
    | fuel + 1 => do
      if (← peek) == '#' then return acc
      let s ← get
      let flow := s.flowLevel > 0
      let stop (i : Nat) : Bool :=
        let ch := s.src.getD (s.pos + i) endChar
        let next := s.src.getD (s.pos + i + 1) endChar
        isBlankOrEnd ch || (ch == ':' && (isBlankOrEnd next || (flow && isFlowIndicator next))) ||
          (flow && (isFlowIndicator ch || ch == '?'))
      let n := firstStop stop 0 (s.src.size + 1 - s.pos)
      if n == 0 then return acc
      setAllow false
      let run ← ahead n
      advance n
      let acc := acc ++ spaces ++ run
      match ← plainGap with
      | none => return acc
      | some sp =>
        let s' ← get
        if sp.isEmpty || (← peek) == '#' || (s'.flowLevel == 0 && (s'.column : Int) < indent) then
          return acc
        loop indent acc sp fuel
  /-- The first index from `i` at which `stop` holds. -/
  firstStop (stop : Nat → Bool) (i : Nat) : Nat → Nat
    | 0 => i
    | fuel + 1 => if stop i then i else firstStop stop (i + 1) fuel

/-- The characters of a double-quoted escape letter. -/
def escapeOf (c : Char) : Option String :=
  match c with
  | '0' => some (String.singleton (Char.ofNat 0))
  | 'a' => some (String.singleton (Char.ofNat 7))
  | 'b' => some (String.singleton (Char.ofNat 8))
  | 't' | '\t' => some "\t"
  | 'n' => some "\n"
  | 'v' => some (String.singleton (Char.ofNat 11))
  | 'f' => some (String.singleton (Char.ofNat 12))
  | 'r' => some "\r"
  | 'e' => some (String.singleton (Char.ofNat 27))
  | ' ' => some " "
  | '"' => some "\""
  | '\\' => some "\\"
  | '/' => some "/"
  | 'N' => some (String.singleton (Char.ofNat 0x85))
  | '_' => some (String.singleton (Char.ofNat 0xA0))
  | 'L' => some (String.singleton (Char.ofNat 0x2028))
  | 'P' => some (String.singleton (Char.ofNat 0x2029))
  | _ => none

/-- The character of an escaped code point. A surrogate is kept as its stand-in
(`Text.surrogateStandIn`); a code point past Unicode is a value failure, and one past the
largest machine integer an overflow. -/
def codeChar (code : Nat) : LexM Char :=
  if 0x7FFFFFFF < code then throw .codeTooLarge
  else if 0x110000 ≤ code then throw (.value "chr() arg not in range(0x110000)")
  else pure (Text.charOfCode code)

/-- Line breaks inside a quoted scalar after the first: each as its break. -/
def quotedLineBreaks (acc : List String) : Nat → LexM (List String)
  | 0 => pure acc.reverse
  | fuel + 1 => do
    if ← atDocumentMarker then throw (.malformed "found unexpected document separator")
    skipWhile (fun c => c == ' ' || c == '\t')
    if isBreak (← peek) then
      let b ← lineBreak
      quotedLineBreaks (b :: acc) fuel
    else return acc.reverse

/-- Non-blank text of a quoted scalar, with its escapes. -/
def quotedRun (double : Bool) (acc : String) : Nat → LexM String
  | 0 => pure acc
  | fuel + 1 => do
    let n ← runAt 0 (fun c => !(c == '\'' || c == '"' || c == '\\' || isBlankOrEnd c))
    let run ← ahead n
    advance n
    let acc := acc ++ run
    let ch ← peek
    if !double && ch == '\'' && (← peekAt 1) == '\'' then
      advance 2
      quotedRun double (acc ++ "'") fuel
    else if (double && ch == '\'') || (!double && (ch == '"' || ch == '\\')) then
      advance 1
      quotedRun double (acc.push ch) fuel
    else if double && ch == '\\' then
      advance 1
      let e ← peek
      match escapeOf e with
      | some r =>
        advance 1
        quotedRun double (acc ++ r) fuel
      | none =>
        let width := if e == 'x' then 2 else if e == 'u' then 4 else if e == 'U' then 8 else 0
        if width > 0 then
          advance 1
          let digits ← ahead width
          match hexValue digits with
          | some code =>
            if digits.length != width then throw (.malformed "expected escape digits")
            advance width
            quotedRun double (acc.push (← codeChar code)) fuel
          | none => throw (.malformed "expected escape digits")
        else if isBreak e then
          let _ ← lineBreak
          let bs ← quotedLineBreaks [] (← remaining)
          quotedRun double (acc ++ String.join bs) fuel
        else throw (.malformed "found unknown escape character")
    else return acc

/-- Blanks inside a quoted scalar: spaces kept, line breaks folded. -/
def quotedGap : LexM String := do
  let n ← runAt 0 (fun c => c == ' ' || c == '\t')
  let whitespaces ← ahead n
  advance n
  let ch ← peek
  if ch.toNat == 0 then throw (.malformed "found unexpected end of stream")
  else if isBreak ch then
    let br ← lineBreak
    let bs ← quotedLineBreaks [] (← remaining)
    let head := if br != "\n" then br else if bs.isEmpty then " " else ""
    return head ++ String.join bs
  else return whitespaces

/-- A single- or double-quoted scalar. -/
def quotedScalar (double : Bool) : LexM Token := do
  let q ← peek
  advance 1
  let first ← quotedRun double "" (← remaining)
  let text ← loop q first (← remaining)
  advance 1
  return .scalar text false
where
  /-- Reads blanks and text until the closing quote. -/
  loop (q : Char) (acc : String) : Nat → LexM String
    | 0 => throw (.malformed "unfinished quoted scalar")
    | fuel + 1 => do
      if (← peek) == q then return acc
      let sp ← quotedGap
      let t ← quotedRun double "" (← remaining)
      loop q (acc ++ sp ++ t) fuel

/-- The header of a block scalar: chomping (`+` keep, `-` strip) and an indentation
increment. -/
def blockScalarHeader : LexM (Option Bool × Option Nat) := do
  let ch ← peek
  let chompOf (c : Char) : Option Bool := if c == '+' then some true else some false
  let result ← if ch == '+' || ch == '-' then do
      advance 1
      let d ← peek
      if d.isDigit then
        if d == '0' then throw (.malformed "expected an indentation indicator in the range 1-9")
        advance 1
        pure (chompOf ch, some (d.toNat - 48))
      else pure (chompOf ch, none)
    else if ch.isDigit then do
      if ch == '0' then throw (.malformed "expected an indentation indicator in the range 1-9")
      advance 1
      let c ← peek
      if c == '+' || c == '-' then
        advance 1
        pure (chompOf c, some (ch.toNat - 48))
      else pure (none, some (ch.toNat - 48))
    else pure (none, none)
  let after ← peek
  if !(after.toNat == 0 || after == ' ' || isBreak after) then
    throw (.malformed "expected chomping or indentation indicators")
  skipWhile (· == ' ')
  if (← peek) == '#' then skipWhile (fun c => !isBreakOrEnd c)
  if !isBreakOrEnd (← peek) then throw (.malformed "expected a comment or a line break")
  let _ ← lineBreak
  return result

/-- Empty lines before a block scalar's first line: their breaks, and the largest
indentation seen. -/
def leadingEmptyLines (acc : List String) (maxIndent : Nat) : Nat → LexM (List String × Nat)
  | 0 => pure (acc.reverse, maxIndent)
  | fuel + 1 => do
    let ch ← peek
    if ch == ' ' then
      advance 1
      let col := (← get).column
      leadingEmptyLines acc (max maxIndent col) fuel
    else if isBreak ch then
      let b ← lineBreak
      leadingEmptyLines (b :: acc) maxIndent fuel
    else return (acc.reverse, maxIndent)

/-- Empty lines inside a block scalar, up to its indentation. -/
def emptyLinesTo (indent : Nat) (acc : List String) : Nat → LexM (List String)
  | 0 => pure acc.reverse
  | fuel + 1 => do
    let col := (← get).column
    if col < indent && (← peek) == ' ' then
      advance 1
      emptyLinesTo indent acc fuel
    else if isBreak (← peek) then
      let b ← lineBreak
      emptyLinesTo indent (b :: acc) fuel
    else return acc.reverse

/-- A literal (`|`) or folded (`>`) block scalar. -/
def blockScalar (folded : Bool) : LexM Token := do
  advance 1
  let (chomping, increment) ← blockScalarHeader
  let minIndent : Nat := max 1 ((← get).indent + 1).toNat
  let (breaks0, indent) ← match increment with
    | none => do
      let (bs, maxIndent) ← leadingEmptyLines [] 0 (← remaining)
      pure (bs, max minIndent maxIndent)
    | some inc => do
      let ind := minIndent + inc - 1
      let bs ← emptyLinesTo ind [] (← remaining)
      pure (bs, ind)
  let (body, lastBreak, trailing) ← lines indent "" breaks0 "" (← remaining)
  let tail := match chomping with
    | some false => ""
    | some true => lastBreak ++ String.join trailing
    | none => lastBreak
  return .scalar (body ++ tail) false
where
  /-- Reads lines at the block's indentation; gives the text, the last line break, and the
  empty lines after it. -/
  lines (indent : Nat) (acc : String) (breaks : List String) (lastBreak : String) :
      Nat → LexM (String × String × List String)
    | 0 => pure (acc, lastBreak, breaks)
    | fuel + 1 => do
      let s ← get
      if !(s.column == indent && (← peek).toNat != 0) then return (acc, lastBreak, breaks)
      let acc := acc ++ String.join breaks
      let leadingNonSpace := !((← peek) == ' ' || (← peek) == '\t')
      let n ← runAt 0 (fun c => !isBreakOrEnd c)
      let line ← ahead n
      advance n
      let br ← lineBreak
      let bs ← emptyLinesTo indent [] (← remaining)
      let s' ← get
      if s'.column == indent && (← peek).toNat != 0 then
        let next ← peek
        let join := if folded && br == "\n" && leadingNonSpace && !(next == ' ' || next == '\t')
          then (if bs.isEmpty then " " else "") else br
        lines indent (acc ++ line ++ join) bs br fuel
      else return (acc ++ line, br, bs)

/-- Whether a plain scalar may start here. -/
def plainStartsHere : LexM Bool := do
  let ch ← peek
  let next ← peekAt 1
  let flow := (← get).flowLevel > 0
  return !isPlainStop ch ||
    (!isBlankOrEnd next && (ch == '-' || (!flow && (ch == '?' || ch == ':'))))

/-- Reads the next token or tokens. -/
def step : LexM Unit := do
  skipToToken
  dropStaleKeys
  closeBlocks (← get).column
  let ch ← peek
  let s ← get
  let atLineStart := s.column == 0
  let blankNext := isBlankOrEnd (← peekAt 1)
  if ch.toNat == 0 then endOfText
  else if ch == '%' && atLineStart then directiveLine
  else if ch == '-' && atLineStart && (← ahead 3) == "---" && isBlankOrEnd (← peekAt 3) then
    documentMarker .documentStart
  else if ch == '.' && atLineStart && (← ahead 3) == "..." && isBlankOrEnd (← peekAt 3) then
    documentMarker .documentEnd
  else if ch == '[' then openFlow .flowSequenceStart
  else if ch == '{' then openFlow .flowMappingStart
  else if ch == ']' then closeFlow .flowSequenceEnd
  else if ch == '}' then closeFlow .flowMappingEnd
  else if ch == ',' then flowSeparator
  else if ch == '-' && blankNext then sequenceDash
  else if ch == '?' && (s.flowLevel > 0 || blankNext) then keyMark
  else if ch == ':' && (s.flowLevel > 0 || blankNext) then valueMark
  else if ch == '*' then do noteKey; setAllow false; emit (← nameToken true)
  else if ch == '&' then do noteKey; setAllow false; emit (← nameToken false)
  else if ch == '!' then do noteKey; setAllow false; emit (← tagToken)
  else if (ch == '|' || ch == '>') && s.flowLevel == 0 then do
    setAllow true
    forgetKey
    emit (← blockScalar (ch == '>'))
  else if ch == '\'' || ch == '"' then do
    noteKey
    setAllow false
    emit (← quotedScalar (ch == '"'))
  else if ← plainStartsHere then do
    noteKey
    setAllow false
    emit (← plainScalar)
  else throw (.malformed "found character that cannot start any token")

/-- Reads tokens until the end of the text. When a step fails, only the tokens a reader could
have taken before it stay: those emitted by earlier steps and before the first simple key still
waiting for its `:`. -/
def run : Nat → LexM Unit
  | 0 => throw (.malformed "lexer did not finish")
  | fuel + 1 => do
    let s ← get
    if s.done then return
    let stale (k : SimpleKey) : Bool := k.line != s.line || s.pos - k.index > 1024
    let waiting := (s.keys.filter (fun (_, k) => !stale k)).map (fun (_, k) => k.tokenNumber)
    let released := waiting.foldl min s.tokens.size
    tryCatch step (fun e => do
      modify (fun t => { t with tokens := t.tokens.extract 0 released })
      throw e)
    run fuel

end Lex

/-- Whether a character may stand in a YAML text: tab, line feed, carriage return, the
printable ASCII characters, next line, and the printable Unicode planes without the
surrogates and the two noncharacters at the end of the basic plane. -/
def isAllowedChar (c : Char) : Bool :=
  let n := c.toNat
  n == 0x09 || n == 0x0A || n == 0x0D || (0x20 ≤ n && n ≤ 0x7E) || n == 0x85 ||
    (0xA0 ≤ n && n ≤ 0xD7FF) || (0xE000 ≤ n && n ≤ 0xFFFD) || (0x10000 ≤ n && n ≤ 0x10FFFF)

/-- The tokens of a text, and why they stop early when they do. -/
structure TokenStream where
  tokens : List Token
  stop : Option Failure

/-- The tokens of a YAML text: all of them, ending with `streamEnd`, or those read before the
first failure and that failure. -/
def tokenize (text : String) : TokenStream :=
  let cs := text.toList
  if !cs.all isAllowedChar then ⟨[], some (.malformed "special characters are not allowed")⟩
  else
    let src := cs.toArray
    let start : Lexer := ⟨src, 0, 0, 0, 0, -1, [], true, [], #[], false⟩
    let (r, s) := (Lex.run (2 * src.size + 4)).run.run start
    match r with
    | .ok () => ⟨s.tokens.toList, none⟩
    | .error e => ⟨s.tokens.toList, some e⟩

end LowPowerPayload.Yaml
