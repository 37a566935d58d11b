import LowPowerPayload.Catalog
import LowPowerPayload.Decoder
import LowPowerPayload.Report
/-!
# Building a decoder from a configuration

`build` makes a decoder that knows the standard types and, when the configuration names a
types file, the custom types of that catalog. The catalog is loaded whole first; then each
of its types is registered in file order. A type the registry refuses (its id is standard or
taken) fails the build when the catalog is strict, and is skipped with a warning otherwise.

A catalog that cannot be loaded fails the build, except for a failure that is not a catalog
problem (an infinite id, or a scalar that ends the load as it is, `IssueKind.escapes`), which
passes through as it is.
-/

namespace LowPowerPayload

/-- How to build a decoder. -/
structure BuildConfig where
  /-- The catalog's path; none, or an empty path, for no catalog. -/
  typesFile : Option String := none
  /-- Whether a catalog type the registry refuses fails the build. -/
  strict : Bool := true

/-- Why a decoder could not be built. -/
inductive BuildFailure where
  /-- The catalog at a path could not be loaded. -/
  | unloadable (path : String) (issue : CatalogIssue)
  /-- Loading stopped on an error that is not a catalog problem. -/
  | aborted (issue : CatalogIssue)
  /-- A strict catalog has types the registry refused, by ascending id. -/
  | refused (path : String) (ids : List Nat)

/-- Registers catalog types in order: the decoder after, the events, and the refused ids. A
catalog type's name is text already, so writing it cannot fail. -/
def registerSpecs : Decoder → List TypeSpec → Decoder × List Event × List Nat
  | d, [] => (d, [], [])
  | d, s :: rest =>
    let (ok, d', events) :=
      d.addNamed (.int s.typeId) s.name (.int s.byteWidth) (.ready (.layout s.fields))
    let (d'', more, refused) := registerSpecs d' rest
    (d'', events ++ more, if ok then refused else s.typeId :: refused)

/-- Sorts ids in ascending order. -/
def sortIds (ids : List Nat) : List Nat := ids.mergeSort (· ≤ ·)

/-- Builds a decoder, given what the catalog's path names: the events reported, and the decoder or
why it could not be built. Follows `build_decoder`, `src/cayenne_lpp/app/factory.py:15-56`. -/
def build (config : BuildConfig) (entry : PathEntry) : List Event × Except BuildFailure Decoder :=
  match config.typesFile with
  | none => ([], .ok Decoder.fresh)
  | some "" => ([], .ok Decoder.fresh)
  | some path =>
    let loaded := Catalog.load path entry
    match loaded.specs with
    | .error issue =>
      ([], .error (if issue.kind.escapes then .aborted issue else .unloadable path issue))
    | .ok specs =>
      let (d, events, refused) := registerSpecs Decoder.fresh specs
      let refused := sortIds refused
      if config.strict && !refused.isEmpty then (events, .error (.refused path refused))
      else
        let skipped := if refused.isEmpty then [] else [Event.catalogSkipped (refused.map Int.ofNat)]
        let applied := Event.catalogApplied path (loaded.digest.getD "")
          (specs.length - refused.length)
        (events ++ skipped ++ [applied], .ok d)

/-- The hint of refused catalog types. -/
def refusedHint : String := "Custom types must not reuse a standard or already registered type id."

/-- The report of a catalog that failed the build. -/
def BuildFailure.report? : BuildFailure → Option Report
  | .unloadable path issue =>
    some ⟨"catalog_error", none, "Failed to load types catalog.", issue.message?,
      [("types_file", .text path)]⟩
  | .aborted _ => none
  | .refused path ids =>
    some ⟨"catalog_error", none, "Catalog types could not be registered: " ++
      idList (ids.map Int.ofNat), some refusedHint,
      [("types_file", .text path), ("rejected", .list (ids.map (fun t => .int (Int.ofNat t))))]⟩

end LowPowerPayload
