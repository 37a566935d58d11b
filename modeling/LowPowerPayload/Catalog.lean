import LowPowerPayload.Wire.Field
import LowPowerPayload.Yaml.Load
import LowPowerPayload.Digest.Sha256
import LowPowerPayload.Text.Numeral
import LowPowerPayload.Decimal.Integral
import LowPowerPayload.Text.Utf16
/-!
# Type catalogs

A types catalog is a YAML file that declares custom data types under a root `types`
mapping: each key is a type id and each value gives the type's `name` and its `fields`, a
non-empty list of `{name, encode, divisor}` mappings packed back to back.

`Catalog.load` checks the whole file before anything is registered and stops at the first
problem, in the order the file is read:

* the id: an integer in `0..255`; a text id is a numeral with an optional `0x`, `0o` or `0b`
  prefix, any other number counts by its integer part, and a truth value as `0` or `1`;
* the entry is a mapping with a name;
* `fields` is a non-empty list, and each field is a mapping with a known encoding and a
  divisor that is a nonzero number;
* a type of several fields names every field, with no name twice;
* no id is declared twice.

The file is read as bytes. They spell UTF-16 text when they open with its byte-order mark, of
either order, and UTF-8 text otherwise; bytes that spell no text in their encoding are no YAML.
The digest of the file's bytes is known as soon as the file is read, so it comes with every
outcome of a file that can be read.
-/

namespace LowPowerPayload

/-- A custom type a catalog declares. Follows `CustomTypeSpec`,
`src/cayenne_lpp/model/loader.py:32-56`. -/
structure TypeSpec where
  typeId : Nat
  name : String
  fields : List Field
  deriving Inhabited

namespace TypeSpec

/-- The number of bytes a value of the type takes: the sum of its fields' sizes. Follows
`CustomTypeSpec.byte_width`, `src/cayenne_lpp/model/loader.py:44-45`. -/
def byteWidth (s : TypeSpec) : Nat :=
  s.fields.foldr (fun f width => f.size.toOption.getD 0 + width) 0

/-- Decodes a value of the type from its bytes. -/
def decode (s : TypeSpec) (bs : List UInt8) : Except Fault Reading := decodeLayout s.fields bs

end TypeSpec

/-- How a catalog problem is raised. -/
inductive IssueKind where
  /-- The file does not exist. -/
  | missing
  /-- The path names a directory. -/
  | directory
  /-- The file may not be read. -/
  | denied
  /-- The file is not YAML. -/
  | malformed
  /-- The file is YAML but declares something wrong, or spells a value out of range. -/
  | invalid
  /-- A number too large for the machine type it is read into. -/
  | overflow
  /-- A truth word that is none. -/
  | unknownWord
  /-- A number scalar with nothing to read. -/
  | emptyNumber
  /-- A timestamp scalar without the timestamp form. -/
  | noTimestamp
  /-- A value looked up through a cycle. -/
  | endless
  deriving Repr, DecidableEq

/-- Whether a problem of this kind is one of the catalog rather than an error that ends the
load as it is: a missing file, a text that is not YAML, and a wrong declaration are. -/
def IssueKind.escapes : IssueKind → Bool
  | .missing | .malformed | .invalid => false
  | _ => true

/-- Why a catalog could not be loaded. -/
inductive CatalogIssue where
  | missingFile (path : String)
  /-- The path names a directory. -/
  | directory (path : String)
  /-- The file at the path may not be read. -/
  | denied (path : String)
  /-- The file's bytes spell no YAML document. -/
  | unreadable (failure : Yaml.Failure)
  | missingRoot (fileName : String)
  | invalidId (raw : Datum)
  | infiniteId
  | idOutOfRange (typeId : Int)
  | entryNotMapping (typeId : Nat)
  | missingName (typeId : Nat)
  | fieldsNotList (typeId : Nat)
  | fieldNotMapping (typeId index : Nat)
  | missingEncode (typeId index : Nat)
  | unknownEncode (typeId index : Nat) (encode : String)
  | badDivisor (typeId index : Nat)
  | unnamedFields (typeId : Nat)
  | duplicateNames (typeId : Nat)
  | definedTwice (typeId : Nat)
  /-- A name or encoding holds an integer too long to write in decimal. -/
  | unwritable
  /-- A name or encoding nests collections deeper than there are levels to write them. -/
  | nestedTooDeep

namespace CatalogIssue

/-- How the issue is raised. -/
def kind : CatalogIssue → IssueKind
  | .missingFile _ => .missing
  | .directory _ => .directory
  | .denied _ => .denied
  | .unreadable f => match f.kind with
    | .malformed => .malformed
    | .value => .invalid
    | .key => .unknownWord
    | .index => .emptyNumber
    | .attribute => .noTimestamp
    | .overflow => .overflow
    | .recursion => .endless
  | .infiniteId => .overflow
  | .nestedTooDeep => .endless
  | _ => .invalid

/-- `Type 0x..`, the words that open a message about one type. -/
def typeWords (typeId : Nat) : String := "Type 0x" ++ Text.hexTag typeId

/-- Whether an integer has too many digits to be written in decimal. -/
def tooLongToWrite (n : Int) : Bool := Text.maxDigits < (Nat.toDigits 10 n.natAbs).length

/-- The message of the issue; a malformed file has none. -/
def message? : CatalogIssue → Option String
  | .missingFile path => some ("Missing types catalog: " ++ path)
  | .directory path => some ("[Errno 21] Is a directory: " ++ Text.quote path)
  | .denied path => some ("[Errno 13] Permission denied: " ++ Text.quote path)
  | .unreadable f => f.message?
  | .missingRoot fileName => some (fileName ++ " is missing 'types' root node")
  | .invalidId raw => some ("Invalid type id " ++ raw.repr)
  | .infiniteId => some "cannot convert float infinity to integer"
  | .idOutOfRange t =>
    if tooLongToWrite t then some Text.tooLongToWriteMessage
    else some ("Type id " ++ toString t ++ " out of range 0..255")
  | .entryNotMapping t => some (typeWords t ++ " entry must be a mapping")
  | .missingName t => some (typeWords t ++ " is missing 'name'")
  | .fieldsNotList t => some (typeWords t ++ " 'fields' must be a non-empty list")
  | .fieldNotMapping t i => some (typeWords t ++ " field " ++ toString i ++ " must be a mapping")
  | .missingEncode t i => some (typeWords t ++ " field " ++ toString i ++ " is missing 'encode'")
  | .unknownEncode t i e =>
    some (typeWords t ++ " field " ++ toString i ++ ": Unknown encode type '" ++ e ++ "'")
  | .badDivisor t i =>
    some (typeWords t ++ " field " ++ toString i ++ " divisor must be a non-zero number")
  | .unnamedFields t => some (typeWords t ++ " has several fields; every field needs a 'name'")
  | .duplicateNames t => some (typeWords t ++ " has duplicate field names")
  | .definedTwice t => some (typeWords t ++ " defined twice")
  | .unwritable => some Text.tooLongToWriteMessage
  | .nestedTooDeep => some "maximum recursion depth exceeded while getting the repr of an object"

end CatalogIssue

namespace Catalog

open Yaml (Heap Value)

/-- A path with empty and `.` parts dropped, as the loader names it. -/
def normalPath (path : String) : String :=
  let body := "/".intercalate ((path.splitOn "/").filter (fun p => p != "" && p != "."))
  let root :=
    if path.startsWith "//" && !path.startsWith "///" then "//"
    else if path.startsWith "/" then "/"
    else ""
  if root.isEmpty && body.isEmpty then "." else root ++ body

/-- Whether a path names a directory whatever the files are: the current directory, the root,
or their parents. -/
def isDirectoryPath (path : String) : Bool :=
  ((path.splitOn "/").filter (fun p => p != "" && p != ".")).all (· == "..")

/-- The last part of a path. -/
def fileName (path : String) : String :=
  (((path.splitOn "/").filter (fun p => p != "" && p != ".")).getLast?).getD ""

/-- The type id a catalog key stands for. Follows `_parse_type_id`,
`src/cayenne_lpp/model/loader.py:115-122`. -/
def typeId (raw : Datum) : Except CatalogIssue Nat := do
  let n : Int ← match raw with
    | .text s => match Text.parseInt? 0 s with
      | some n => pure n
      | none => throw (.invalidId raw)
    | .bytes b => match Text.readIntAscii 10 (b.map (fun x => Char.ofNat x.toNat)) with
      | .value n => pure n
      | _ => throw (.invalidId raw)
    | .int n => pure n
    | .bool b => pure (if b then 1 else 0)
    | .float x =>
      if x.isNaN then throw (.invalidId raw)
      else match Decimal.truncate? x with
        | some n => pure n
        | none => throw .infiniteId
    | _ => throw (.invalidId raw)
  if 0 ≤ n ∧ n ≤ 255 then return n.toNat else throw (.idOutOfRange n)

/-- Whether a divisor is a nonzero number; a truth value is not a number here. -/
def isDivisor : Datum → Bool
  | .int n => n != 0
  | .float x => x != 0.0
  | _ => false

/-- The levels there are to write a type's name. -/
def nameRoom : Nat := 995

/-- The levels there are to write a field's name or encoding: two fewer than for a type's
name, as fields are read one call deeper. -/
def fieldRoom : Nat := 993

/-- The display text of a value with `room` levels to write it in. -/
def written (h : Heap) (room : Nat) (i : Nat) : Except CatalogIssue String :=
  match h.text room i with
  | .ok s => .ok s
  | .error .tooLong => .error .unwritable
  | .error .tooDeep => .error .nestedTooDeep

/-- Whether a mapping value has a true value under a key. -/
def hasTrue (h : Heap) (i : Nat) (key : String) : Bool :=
  match h.lookup? i key with
  | some v => h.truthy v
  | none => false

/-- Reads the field at an index of a type's field list. Follows `_parse_field`,
`src/cayenne_lpp/model/loader.py:148-169`. -/
def field (h : Heap) (typeId index : Nat) (info : Nat) : Except CatalogIssue Field := do
  let .dict _ := h.get info | throw (.fieldNotMapping typeId index)
  let some encode := h.lookup? info "encode" | throw (.missingEncode typeId index)
  if !h.truthy encode then throw (.missingEncode typeId index)
  let text ← written h fieldRoom encode
  if (Encoding.ofName? text).isNone then throw (.unknownEncode typeId index text)
  let divisor := match h.lookup? info "divisor" with
    | some d => h.scalar? d
    | none => some (.int 1)
  let some d := divisor | throw (.badDivisor typeId index)
  if !isDivisor d then throw (.badDivisor typeId index)
  let name ← match h.lookup? info "name" with
    | none => pure none
    | some n => match h.get n with
      | .scalar .null => pure none
      | _ => some <$> written h fieldRoom n
  return ⟨name, Text.lower text, d⟩

/-- Reads a type's fields, counting from an index. -/
def fields (h : Heap) (typeId : Nat) : Nat → List Nat → Except CatalogIssue (List Field)
  | _, [] => .ok []
  | index, info :: rest => do
    let f ← field h typeId index info
    let fs ← fields h typeId (index + 1) rest
    return f :: fs

/-- Whether some item of a list occurs twice. -/
def hasRepeat {α : Type} [BEq α] : List α → Bool
  | [] => false
  | x :: rest => rest.contains x || hasRepeat rest

/-- Reads one entry of the `types` mapping. Follows `_parse_type`,
`src/cayenne_lpp/model/loader.py:124-145`. -/
def typeSpec (h : Heap) (raw info : Nat) : Except CatalogIssue TypeSpec := do
  let t ← typeId ((h.scalar? raw).getD .null)
  let .dict _ := h.get info | throw (.entryNotMapping t)
  let some name := h.lookup? info "name" | throw (.missingName t)
  if !h.truthy name then throw (.missingName t)
  let items ← match (h.lookup? info "fields").map h.get with
    | some (.list (x :: xs)) => pure (x :: xs)
    | _ => throw (.fieldsNotList t)
  let fs ← fields h t 0 items
  let names := fs.map Field.name
  if 1 < fs.length && names.any Option.isNone then throw (.unnamedFields t)
  if hasRepeat names then throw (.duplicateNames t)
  return ⟨t, ← written h nameRoom name, fs⟩

/-- Reads the entries of the `types` mapping in order; an id may be declared once. -/
def typeSpecs (h : Heap) : List TypeSpec → List (Nat × Nat) → Except CatalogIssue (List TypeSpec)
  | acc, [] => .ok acc.reverse
  | acc, (raw, info) :: rest => do
    let s ← typeSpec h raw info
    if acc.any (fun p => p.typeId == s.typeId) then throw (.definedTwice s.typeId)
    typeSpecs h (s :: acc) rest

/-- Reads the types a catalog text declares; `name` is the file's name. A document that counts as
false stands for an empty mapping. Follows `TypeCatalogLoader.load`,
`src/cayenne_lpp/model/loader.py:90-102`. -/
def parse (name text : String) : Except CatalogIssue (List TypeSpec) := do
  let doc ← match Yaml.load text with
    | .ok d => pure d
    | .error f => throw (.unreadable f)
  let h := doc.heap
  let types := if h.truthy doc.root then h.lookup? doc.root "types" else none
  let some t := types | throw (.missingRoot name)
  let .dict entries := h.get t | throw (.missingRoot name)
  typeSpecs h [] entries

/-- The text a catalog file's bytes spell: UTF-16 when they open with its byte-order mark, of
either order, and UTF-8 otherwise. The mark stays at the head of the text. -/
def textOf (bytes : List UInt8) : Except Yaml.Failure String :=
  let text? := match bytes with
    | 0xFF :: 0xFE :: _ => Text.ofUtf16? false bytes
    | 0xFE :: 0xFF :: _ => Text.ofUtf16? true bytes
    | _ => String.fromUTF8? ⟨bytes.toArray⟩
  match text? with
  | some text => .ok text
  | none => .error (.malformed "bytes that spell no text in their encoding")

/-- Reads the types a catalog file's bytes declare; `name` is the file's name. -/
def read (name : String) (bytes : List UInt8) : Except CatalogIssue (List TypeSpec) :=
  match textOf bytes with
  | .ok text => parse name text
  | .error f => .error (.unreadable f)

/-- The digest of a catalog file: SHA-256 of its bytes, in hexadecimal. -/
def digest (bytes : List UInt8) : String := Digest.sha256Hex bytes

end Catalog

/-- A catalog as loaded: the digest of its bytes when it exists, and its types or the first
problem found. -/
structure LoadedCatalog where
  digest : Option String
  specs : Except CatalogIssue (List TypeSpec)

/-- What a path names: nothing, a directory, a file that may not be read, or a file with its
bytes. -/
inductive PathEntry where
  | absent
  | directory
  | denied
  | file (bytes : List UInt8)
  deriving Repr, DecidableEq

/-- Loads the catalog at a path, given what the path names. Follows `TypeCatalogLoader.load`,
`src/cayenne_lpp/model/loader.py:83-102`. -/
def Catalog.load (path : String) (entry : PathEntry) : LoadedCatalog :=
  match entry with
  | .absent => ⟨none, .error (.missingFile (normalPath path))⟩
  | .directory => ⟨none, .error (.directory (normalPath path))⟩
  | .denied => ⟨none, .error (.denied (normalPath path))⟩
  | .file bytes => ⟨some (digest bytes), read (fileName path) bytes⟩

end LowPowerPayload
