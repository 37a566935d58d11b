import LowPowerPayload.Command.Line
import LowPowerPayload.Build
import LowPowerPayload.HexText
import LowPowerPayload.Json.Write
/-!
# Running the command

`Command.run` carries out a command line and gives what it prints and its exit code:

* `decode` builds the decoder, reads the payload text and decodes it, printing the readings as
  JSON (indented by `--indent` when it is positive, on one line otherwise);
* `types` builds the decoder and prints one line per known type, by id;
* an error of the library prints `ERROR:` and its message (with the numeric code of a decoding
  error), then its hint when it has one, and exits with 1;
* an error of usage prints nothing and exits with 2.

The files the command may read are given as a function from paths to texts.
-/

namespace LowPowerPayload.Command

/-- What a run prints and its exit code. -/
structure Outcome where
  exit : Nat
  stdout : String
  deriving Repr, DecidableEq

/-- An error no part of the command handles. -/
inductive Escape where
  | fault (f : Fault)
  | catalog (issue : CatalogIssue)

/-- The lines that report an error: its message, then its hint when there is one. -/
def errorLines (message : String) (hint : Option String) : String :=
  let hintLine := match hint with
    | some h => if h.isEmpty then "" else "Hint: " ++ h ++ "\n"
    | none => ""
  "ERROR: " ++ message ++ "\n" ++ hintLine

/-- The lines that report an error with its report. -/
def reportLines (r : Report) : String :=
  let head := match r.outcome with
    | some n => r.message ++ " (code=" ++ toString n ++ ")"
    | none => r.message
  errorLines head r.hint

/-- The hint of a payload text that is not hexadecimal bytes. -/
def payloadHint : String := "Pass the payload as hex bytes, e.g. '01 67 01 10'."

/-- A text padded with spaces on the right to a width. -/
def padRight (s : String) (width : Nat) : String :=
  s ++ String.ofList (List.replicate (width - s.length) ' ')

/-- The listing line of a data type. -/
def typeLine (d : Descriptor) : String :=
  "  " ++ idTag d.typeId ++ "  " ++ padRight d.name 16 ++ " width=" ++
    padRight (toString d.width) 3 ++ " " ++ (if d.standard then "standard" else "custom") ++ "\n"

/-- Builds the decoder of a command: the decoder, or the outcome of a failed build. -/
def decoderFor (types : Option String) (strict : Bool) (files : String → PathEntry) :
    Except Escape (Except Outcome Decoder) :=
  match (build ⟨types, strict⟩ ((types.map files).getD .absent)).2 with
  | .ok d => .ok (.ok d)
  | .error (.aborted issue) => .error (.catalog issue)
  | .error f => .ok (.error ⟨1, (f.report?.map reportLines).getD ""⟩)

/-- Decodes a payload text and prints the readings. -/
def decodeText (d : Decoder) (payload : String) (indent : Int) : Except Escape Outcome :=
  match HexText.parse payload with
  | .error e => .ok ⟨1, errorLines e.message (some payloadHint)⟩
  | .ok bs =>
    match (d.decode bs).2 with
    | .ok m =>
      let layout : Json.Layout := ⟨if 0 < indent then some indent.toNat else none⟩
      .ok ⟨0, m.toDatum.json layout ++ "\n"⟩
    | .error (.payload e) => .ok ⟨1, reportLines e.report⟩
    | .error (.fault f) => .error (.fault f)

/-- Carries out a request. Follows `cmd_decode` and `cmd_types`,
`src/cayenne_lpp/cli/commands.py:45-66`. -/
def perform (files : String → PathEntry) : Request → Except Escape Outcome
  | .decode payload types indent lenient =>
    match decoderFor types (!lenient) files with
    | .error e => .error e
    | .ok (.error out) => .ok out
    | .ok (.ok d) => decodeText d payload indent
  | .listTypes types =>
    match decoderFor types true files with
    | .error e => .error e
    | .ok (.error out) => .ok out
    | .ok (.ok d) => .ok ⟨0, String.join (d.registry.descriptors.map typeLine)⟩

/-- Runs a command line. Follows `main`, `src/cayenne_lpp/cli/main.py:13-31`. -/
def run (argv : List String) (files : String → PathEntry) : Except Escape Outcome :=
  match read argv with
  | .usage => .ok ⟨2, ""⟩
  | .help text => .ok ⟨0, text⟩
  | .request _ r => perform files r

/-- The catalog a command line names, if any. -/
def catalogPath (argv : List String) : Option String :=
  match read argv with
  | .request _ (.decode _ types _ _) => types
  | .request _ (.listTypes types) => types
  | _ => none

/-- A directory of named files and their bytes, as the command sees it: a path names a file
when it is that file's name once empty and `.` parts are dropped, and a directory when it is
made of `..` parts alone. -/
def filesIn (dir : List (String × List UInt8)) (path : String) : PathEntry :=
  if Catalog.isDirectoryPath path then .directory
  else match dir.lookup (Catalog.normalPath path) with
    | some bytes => .file bytes
    | none => .absent

end LowPowerPayload.Command
