import LowPowerPayload.Text.Numeral
/-!
# Reading the command line

The command line is `cayenne-lpp [-v...] decode [--types FILE] [--indent N] [--lenient] PAYLOAD`
or `cayenne-lpp [-v...] types [--types FILE]`. Options are read the usual way:

* a long option may be shortened to any prefix that names only one option, and takes its
  value either as the next argument or after `=`;
* short flags may be run together (`-vv`);
* `--` ends the options, and an argument that looks like a negative number, or holds a
  space, is never an option;
* options of the command come after the command's name, in any order around the payload,
  and a later option overrides an earlier one;
* `-h` or `--help` anywhere stops reading and shows the help of the parser that reads it.

Any other argument is an error of usage.
-/

namespace LowPowerPayload.Command

/-- What a command line asks for. -/
inductive Request where
  /-- Decode a payload, with the catalog file, indentation and strictness to use. -/
  | decode (payload : String) (types : Option String) (indent : Int) (lenient : Bool)
  /-- List the known data types. -/
  | listTypes (types : Option String)
  deriving Repr, DecidableEq

/-- How reading a command line ends. -/
inductive Reading where
  /-- A request, and how many times `-v` was given. -/
  | request (verbosity : Nat) (r : Request)
  /-- Help was asked for; the text to show. -/
  | help (text : String)
  /-- The arguments do not follow the usage. -/
  | usage
  deriving Repr, DecidableEq

/-- The options a parser knows. -/
inductive Flag where
  | help | verbose | types | indent | lenient
  deriving Repr, DecidableEq

/-- Whether an option takes a value. -/
def Flag.takesValue : Flag → Bool
  | .types | .indent => true
  | _ => false

/-- The option strings of a parser and the options they name. -/
abbrev OptionTable := List (String × Flag)

/-- The options before the command. -/
def mainOptions : OptionTable :=
  [("-h", .help), ("--help", .help), ("-v", .verbose), ("--verbose", .verbose)]

/-- The options of `decode`. -/
def decodeOptions : OptionTable :=
  [("-h", .help), ("--help", .help), ("--types", .types), ("--indent", .indent),
    ("--lenient", .lenient)]

/-- The options of `types`. -/
def typesOptions : OptionTable := [("-h", .help), ("--help", .help), ("--types", .types)]

/-- How one argument reads. -/
inductive Piece where
  /-- An argument that is not an option. -/
  | plain (text : String)
  /-- The `--` that ends the options. -/
  | separator
  /-- An option: what it names, the option string it matched, and a value attached to it,
  with whether an `=` stood before the value. -/
  | option (flag : Flag) (name : String) (attached : Option (Bool × String))
  /-- An option no option string names. -/
  | unknown (text : String)
  /-- A prefix of several long options. -/
  | ambiguous
  deriving Repr, DecidableEq

/-- Whether a character is a decimal digit of any script. -/
def isAnyDigit (c : Char) : Bool := (Text.decimalDigit? c).isSome

/-- `-` then digits, or `-` then digits, a point and digits (the digits before the point may be
missing): a negative number. The digits may be of any script, and a newline may end it. -/
def looksNegative (s : String) : Bool :=
  let cs := match s.toList.reverse with
    | '\n' :: rest => rest.reverse
    | _ => s.toList
  match cs with
  | '-' :: rest =>
    let whole := rest.takeWhile isAnyDigit
    let more := rest.dropWhile isAnyDigit
    (!whole.isEmpty && more.isEmpty) ||
      (match more with
        | '.' :: frac => !frac.isEmpty && frac.all isAnyDigit
        | _ => false)
  | _ => false

/-- The options an argument may abbreviate: a long prefix (up to any `=`), or a short flag
with more after it. -/
def candidates (table : OptionTable) (arg : String) : List Piece :=
  match arg.toList with
  | '-' :: '-' :: _ =>
    let (pre, value) := match arg.splitOn "=" with
      | [] => (arg, none)
      | [p] => (p, none)
      | p :: rest => (p, some ("=".intercalate rest))
    table.filterMap (fun (entry : String × Flag) =>
      if entry.1.startsWith pre then some (.option entry.2 entry.1 (value.map (true, ·)))
      else none)
  | '-' :: c :: rest =>
    let short := String.ofList ['-', c]
    table.filterMap (fun (entry : String × Flag) =>
      if entry.1 == short then some (.option entry.2 entry.1 (some (false, String.ofList rest)))
      else if entry.1.startsWith arg then some (.option entry.2 entry.1 none)
      else none)
  | _ => []

/-- How an argument reads for a parser with the given options. -/
def classify (table : OptionTable) (arg : String) : Piece :=
  if !arg.startsWith "-" then .plain arg
  else match table.lookup arg with
    | some f => .option f arg none
    | none =>
      if arg.length == 1 then .plain arg
      else
        let exact := match arg.splitOn "=" with
          | p :: rest@(_ :: _) =>
            (table.lookup p).map (fun f => Piece.option f p (some (true, "=".intercalate rest)))
          | _ => none
        match exact with
        | some p => p
        | none =>
          match candidates table arg with
          | [p] => p
          | _ :: _ :: _ => .ambiguous
          | [] =>
            if looksNegative arg || arg.toList.contains ' ' then .plain arg
            else .unknown arg

/-- The pieces of an argument list: after `--` every argument is plain. -/
def pieces (table : OptionTable) : List String → List Piece
  | [] => []
  | "--" :: rest => .separator :: rest.map Piece.plain
  | arg :: rest => classify table arg :: pieces table rest

/-- What a parser has read so far. -/
structure Found where
  verbosity : Nat := 0
  types : Option String := none
  indent : Int := 2
  lenient : Bool := false
  payload : Option String := none
  /-- Whether some argument was not understood. -/
  stray : Bool := false

/-- How reading goes on after one step. -/
inductive Step where
  | next (found : Found) (rest : List Piece)
  | help
  | usage

/-- Applies an option that takes no value. -/
def Found.flag (found : Found) : Flag → Found
  | .verbose => { found with verbosity := found.verbosity + 1 }
  | .lenient => { found with lenient := true }
  | _ => found

/-- Applies an option to its value; an indentation must be an integer. -/
def Found.set (found : Found) (flag : Flag) (value : String) : Option Found :=
  match flag with
  | .types => some { found with types := some value }
  | .indent => (Text.parseInt? 10 value).map (fun n => { found with indent := n })
  | _ => some found

/-- How one option argument expands into options. -/
inductive Expansion where
  /-- The options it stands for, in order, each with a value attached to it. -/
  | flags (fs : List (Flag × Option String))
  /-- A value is attached where none is allowed (an empty one too), or a letter of a run names
  no flag. -/
  | refused

/-- The options one option argument stands for. A short flag that takes no value reads the
text attached to it (after the flag, or after `=`) as more short flags, letter by letter, each
possibly carrying the rest; a long one refuses a value. -/
def expand (table : OptionTable) : Nat → Flag → String → Option (Bool × String) → Expansion
  | 0, _, _, _ => .refused
  | _ + 1, flag, _, none => .flags [(flag, none)]
  | fuel + 1, flag, name, some (_, v) =>
    if flag.takesValue then .flags [(flag, some v)]
    else if name.startsWith "--" then .refused
    else
      match v.toList with
      | [] => .refused
      | c :: rest =>
        let next := String.ofList ['-', c]
        match table.lookup next with
        | some f =>
          let attached := match rest with
            | [] => none
            | more => some (false, String.ofList more)
          match expand table fuel f next attached with
          | .flags fs => .flags ((flag, none) :: fs)
          | e => e
        | none => .refused

/-- Applies options in order; one that takes a value and has none attached takes the next
argument, which must not be an option. -/
def applyAll (found : Found) (rest : List Piece) : List (Flag × Option String) → Step
  | [] => .next found rest
  | (f, v) :: more =>
    if f == .help then .help
    else if f.takesValue then
      match v, rest with
      | some value, _ =>
        match found.set f value with
        | some g => applyAll g rest more
        | none => .usage
      | none, .plain value :: after =>
        match found.set f value with
        | some g => applyAll g after more
        | none => .usage
      | none, _ => .usage
    else applyAll (found.flag f) rest more

/-- Reads one option with what follows it. -/
def option (table : OptionTable) (found : Found) (flag : Flag) (name : String)
    (attached : Option (Bool × String)) (rest : List Piece) : Step :=
  let size := match attached with
    | some (_, v) => v.length
    | none => 0
  match expand table (size + 2) flag name attached with
  | .refused => .usage
  | .flags flags => applyAll found rest flags

/-- Reads the arguments of a command; `positional` says whether it takes a payload. -/
def readCommand (table : OptionTable) (positional : Bool) : Nat → Found → List Piece → Step
  | 0, found, _ => .next found []
  | _ + 1, found, [] => .next found []
  | fuel + 1, found, piece :: rest =>
    match piece with
    | .option flag name attached =>
      match option table found flag name attached rest with
      | .next f more => readCommand table positional fuel f more
      | s => s
    | .unknown _ => readCommand table positional fuel { found with stray := true } rest
    | .ambiguous => .usage
    | .separator | .plain _ =>
      let block := (piece :: rest).takeWhile isLoose
      let after := (piece :: rest).dropWhile isLoose
      if positional && found.payload.isNone then
        let lead := block.dropWhile (· == .separator)
        match lead with
        | .plain p :: more =>
          let left := more.dropWhile (· == .separator)
          readCommand table positional fuel
            { found with payload := some p, stray := found.stray || !left.isEmpty } after
        | _ => readCommand table positional fuel { found with stray := true } after
      else readCommand table positional fuel { found with stray := true } after
where
  /-- Whether a piece is not an option. -/
  isLoose : Piece → Bool
    | .separator | .plain _ => true
    | _ => false

/-- The help of the whole command line. -/
def mainHelp : String :=
  "usage: cayenne-lpp [-h] [-v] \x7bdecode,types\x7d ...\n\n" ++
  "Decode Cayenne LPP payloads.\n\n" ++
  "positional arguments:\n" ++
  "  \x7bdecode,types\x7d\n" ++
  "    decode        Decode a hex payload to JSON.\n" ++
  "    types         List registered data types.\n\n" ++
  "options:\n" ++
  "  -h, --help      show this help message and exit\n" ++
  "  -v, --verbose   Log to stderr (-v: info, -vv: debug).\n"

/-- The help of `decode`. -/
def decodeHelp : String :=
  "usage: cayenne-lpp decode [-h] [--types TYPES] [--indent INDENT] [--lenient]\n" ++
  "                          payload\n\n" ++
  "positional arguments:\n" ++
  "  payload          Hex bytes, e.g. '01 67 01 10' or 0x01,0x67,0x01,0x10.\n\n" ++
  "options:\n" ++
  "  -h, --help       show this help message and exit\n" ++
  "  --types TYPES    YAML catalog of custom types.\n" ++
  "  --indent INDENT  JSON indent (0 = compact).\n" ++
  "  --lenient        Skip catalog types that cannot be registered instead of\n" ++
  "                   failing.\n"

/-- The help of `types`. -/
def typesHelp : String :=
  "usage: cayenne-lpp types [-h] [--types TYPES]\n\n" ++
  "options:\n" ++
  "  -h, --help     show this help message and exit\n" ++
  "  --types TYPES  YAML catalog of custom types.\n"

/-- Reads the options before the command, then the command and its arguments. -/
def readMain : Nat → Found → List String → Reading
  | 0, _, _ => .usage
  | _ + 1, _, [] => .usage
  | fuel + 1, found, arg :: rest =>
    if arg == "--" then .usage
    else match classify mainOptions arg with
      | .plain name =>
        let (table, positional, helpText) :=
          if name == "decode" then (decodeOptions, true, decodeHelp)
          else (typesOptions, false, typesHelp)
        if name != "decode" && name != "types" then .usage
        else
          let ps := pieces table rest
          match readCommand table positional (ps.length + 1) found ps with
          | .help => .help helpText
          | .usage => .usage
          | .next f _ =>
            if f.stray then .usage
            else if positional then
              match f.payload with
              | some p => .request f.verbosity (.decode p f.types f.indent f.lenient)
              | none => .usage
            else .request f.verbosity (.listTypes f.types)
      | .option flag name attached =>
        match option mainOptions found flag name attached (rest.map Piece.plain) with
        | .help => .help mainHelp
        | .usage => .usage
        | .next f _ => readMain fuel f rest
      | .unknown _ => readMain fuel { found with stray := true } rest
      | _ => .usage

/-- Reads a command line. Follows `build_parser`, `src/cayenne_lpp/cli/args.py:8-33`. -/
def read (argv : List String) : Reading := readMain (argv.length + 1) {} argv

end LowPowerPayload.Command
