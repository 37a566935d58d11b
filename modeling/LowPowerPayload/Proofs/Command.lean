import LowPowerPayload.Command.Run
import LowPowerPayload.Proofs.Faults
/-!
# What the command does with a command line it accepts

A request runs in stages: the build of the decoder, then for `decode` the reading of the payload
text and the decoding. `Command.run_request` says how every accepted command line ends, whatever
the catalog file holds. The command exits with `0` once all stages succeed (`Request.Succeeds`),
and with `1` after showing the error of the first stage that fails (`Request.FailsWith`), as
`Shown.text` lays it out: a code only for a decoding error, a hint line only for a hint that is
not empty.

One thing escapes the command with no exit code: a catalog that fails to load with an issue of a
kind the build does not catch (`IssueKind.escapes`), such as a truth word the YAML reader does
not know (`run_raises_on_unknown_truth_word`). No fault of decoding escapes, since a built decoder
lets none through (`build_decode_ne_fault`).
-/

namespace LowPowerPayload

/-- A build stops on a catalog problem of its own, uncaught, exactly when the catalog it names
fails to load with an issue of a kind that escapes. -/
theorem build_aborted_iff {config : BuildConfig} {entry : PathEntry} {issue : CatalogIssue} :
    (build config entry).2 = .error (.aborted issue) ↔
      ∃ path, config.typesFile = some path ∧ path ≠ "" ∧
        (Catalog.load path entry).specs = .error issue ∧ issue.kind.escapes = true := by
  cases htypes : config.typesFile with
  | none => simp [build, htypes]
  | some path =>
    simp only [Option.some.injEq, exists_eq_left']
    by_cases hne : path = ""
    · subst hne
      simp [build, htypes]
    · rw [build_of_path htypes hne]
      cases hl : (Catalog.load path entry).specs with
      | error i =>
        by_cases hesc : i.kind.escapes = true
        · simp only [hesc, if_true, Except.error.injEq, BuildFailure.aborted.injEq]
          constructor
          · rintro rfl
            exact ⟨hne, rfl, hesc⟩
          · rintro ⟨-, rfl, -⟩
            rfl
        · simp only [hesc, Bool.false_eq_true, if_false, Except.error.injEq, reduceCtorEq,
            false_iff]
          rintro ⟨-, rfl, hesc'⟩
          exact hesc hesc'
      | ok specs =>
        simp only [reduceCtorEq, false_and, and_false, iff_false]
        rcases registerSpecs Decoder.fresh specs with ⟨d, events, refused⟩
        dsimp only
        split <;> simp

namespace Command

/-- How the command shows an error: its message, the numeric code of a decoding error, and
its hint. -/
structure Shown where
  message : String
  code : Option Nat
  hint : Option String

/-- The lines that show an error: `ERROR:` and the message, the code when there is one, and a
hint line when the hint is not empty. -/
def Shown.text (s : Shown) : String :=
  "ERROR: " ++ s.message ++
    (match s.code with
      | some n => " (code=" ++ toString n ++ ")"
      | none => "") ++ "\n" ++
    (match s.hint with
      | some h => if h.isEmpty then "" else "Hint: " ++ h ++ "\n"
      | none => "")

theorem errorLines_eq (message : String) (hint : Option String) :
    errorLines message hint = Shown.text ⟨message, none, hint⟩ := by
  cases hint <;> simp [errorLines, Shown.text]

theorem reportLines_eq (r : Report) :
    reportLines r = Shown.text ⟨r.message, r.outcome, r.hint⟩ := by
  obtain ⟨code, outcome, message, hint, details⟩ := r
  cases outcome <;> cases hint <;> simp [reportLines, errorLines, Shown.text, String.append_assoc]

theorem outcome_of_decodeError (e : DecodeError) : ∃ n, e.report.outcome = some n := by
  cases e <;> exact ⟨_, rfl⟩

/-- A build that fails on a catalog error, not on an uncaught problem, has a report, and the
report carries no code. -/
theorem report_of_not_aborted {f : BuildFailure} (h : ∀ issue, f ≠ .aborted issue) :
    ∃ rep, f.report? = some rep ∧ rep.outcome = none := by
  cases f with
  | unloadable path issue => exact ⟨_, rfl, rfl⟩
  | aborted issue => exact absurd rfl (h issue)
  | refused path ids => exact ⟨_, rfl, rfl⟩

namespace Request

/-- The catalog a request names. -/
def catalog : Request → Option String
  | .decode _ types _ _ => types
  | .listTypes types => types

/-- Whether a request fails on a catalog type the registry refuses. -/
def strict : Request → Bool
  | .decode _ _ _ lenient => !lenient
  | .listTypes _ => true

/-- The decoder a request builds, or why it cannot be built. -/
def built (files : String → PathEntry) (r : Request) : Except BuildFailure Decoder :=
  (build ⟨r.catalog, r.strict⟩ ((r.catalog.map files).getD .absent)).2

variable {files : String → PathEntry}

/-- A request whose stages all succeed, with what it prints. -/
inductive Succeeds (files : String → PathEntry) : Request → String → Prop
  | decode {payload : String} {types : Option String} {indent : Int} {lenient : Bool}
      {d : Decoder} {bs : List UInt8} {m : KeyedMap LowPowerPayload.Reading} :
      (Request.decode payload types indent lenient).built files = .ok d →
      HexText.parse payload = .ok bs → (d.decode bs).2 = .ok m →
      Succeeds files (.decode payload types indent lenient)
        (m.toDatum.json ⟨if 0 < indent then some indent.toNat else none⟩ ++ "\n")
  | listTypes {types : Option String} {d : Decoder} :
      (Request.listTypes types).built files = .ok d →
      Succeeds files (.listTypes types) (String.join (d.registry.descriptors.map typeLine))

/-- A request whose first failing stage fails with the error shown: the build with its catalog
error, the payload text with its parse error, or the payload with its decoding error, the only
one that carries a code. -/
inductive FailsWith (files : String → PathEntry) : Request → Shown → Prop
  | build {r : Request} {f : BuildFailure} {rep : Report} :
      r.built files = .error f → f.report? = some rep →
      FailsWith files r ⟨rep.message, none, rep.hint⟩
  | parse {payload : String} {types : Option String} {indent : Int} {lenient : Bool}
      {d : Decoder} {e : HexTextError} :
      (Request.decode payload types indent lenient).built files = .ok d →
      HexText.parse payload = .error e →
      FailsWith files (.decode payload types indent lenient) ⟨e.message, none, some payloadHint⟩
  | decode {payload : String} {types : Option String} {indent : Int} {lenient : Bool}
      {d : Decoder} {bs : List UInt8} {e : DecodeError} {n : Nat} :
      (Request.decode payload types indent lenient).built files = .ok d →
      HexText.parse payload = .ok bs → (d.decode bs).2 = .error (.payload e) →
      e.report.outcome = some n →
      FailsWith files (.decode payload types indent lenient) ⟨e.report.message, some n, e.report.hint⟩

/-- The stages decide how a request ends: it cannot both succeed and fail. -/
theorem Succeeds.not_failsWith {r : Request} {t : String} {s : Shown}
    (hs : Succeeds files r t) (hf : FailsWith files r s) : False := by
  cases hs with
  | decode hb hp hd =>
    cases hf with
    | build hb' _ => rw [hb] at hb'; cases hb'
    | parse hb' hp' => rw [hp] at hp'; cases hp'
    | decode hb' hp' hd' _ =>
      rw [hb] at hb'
      cases hb'
      rw [hp] at hp'
      cases hp'
      rw [hd] at hd'
      cases hd'
  | listTypes hb =>
    cases hf with
    | build hb' _ => rw [hb] at hb'; cases hb'

end Request

open Request

variable {files : String → PathEntry}

/-- Decoding a payload text with a decoder a build gives never escapes: it prints the readings,
or reports why the text is not hexadecimal bytes, or why the payload does not decode. -/
theorem decodeText_cases {config : BuildConfig} {entry : PathEntry} {d : Decoder}
    (hb : (build config entry).2 = .ok d) (payload : String) (indent : Int) :
    (∃ e, HexText.parse payload = .error e ∧
      decodeText d payload indent = .ok ⟨1, errorLines e.message (some payloadHint)⟩) ∨
    (∃ bs m, HexText.parse payload = .ok bs ∧ (d.decode bs).2 = .ok m ∧
      decodeText d payload indent =
        .ok ⟨0, m.toDatum.json ⟨if 0 < indent then some indent.toNat else none⟩ ++ "\n"⟩) ∨
    (∃ bs e, HexText.parse payload = .ok bs ∧ (d.decode bs).2 = .error (.payload e) ∧
      decodeText d payload indent = .ok ⟨1, reportLines e.report⟩) := by
  unfold decodeText
  cases hp : HexText.parse payload with
  | error e => exact .inl ⟨e, rfl, rfl⟩
  | ok bs =>
    dsimp only
    cases hd : (d.decode bs).2 with
    | ok m => exact .inr (.inl ⟨bs, m, rfl, hd, rfl⟩)
    | error failure =>
      cases failure with
      | payload e => exact .inr (.inr ⟨bs, e, rfl, hd, rfl⟩)
      | fault f => exact absurd hd (build_decode_ne_fault hb bs f)

/-- A request's decoder is the one its build gives, or the build stops on an uncaught catalog
problem, or the build fails with a report that carries no code. -/
theorem decoderFor_cases (files : String → PathEntry) (r : Request) :
    (∃ d, r.built files = .ok d ∧ decoderFor r.catalog r.strict files = .ok (.ok d)) ∨
    (∃ issue, r.built files = .error (.aborted issue) ∧
      decoderFor r.catalog r.strict files = .error (.catalog issue)) ∨
    (∃ f rep, r.built files = .error f ∧ f.report? = some rep ∧ rep.outcome = none ∧
      decoderFor r.catalog r.strict files = .ok (.error ⟨1, reportLines rep⟩)) := by
  unfold decoderFor
  rw [show (build ⟨r.catalog, r.strict⟩ ((r.catalog.map files).getD .absent)).2 = r.built files
    from rfl]
  cases hb : r.built files with
  | ok d => exact .inl ⟨d, rfl, rfl⟩
  | error f =>
    by_cases ha : ∃ issue, f = .aborted issue
    · obtain ⟨issue, rfl⟩ := ha
      exact .inr (.inl ⟨issue, rfl, rfl⟩)
    · obtain ⟨rep, hrep, hcode⟩ := report_of_not_aborted (fun issue h => ha ⟨issue, h⟩)
      refine .inr (.inr ⟨f, rep, rfl, hrep, hcode, ?_⟩)
      cases f with
      | aborted issue => exact absurd ⟨issue, rfl⟩ ha
      | unloadable path issue => simp [hrep]
      | refused path ids => simp [hrep]

theorem perform_eq (r : Request) :
    perform files r =
      match decoderFor r.catalog r.strict files with
      | .error e => .error e
      | .ok (.error out) => .ok out
      | .ok (.ok d) =>
        match r with
        | .decode payload _ indent _ => decodeText d payload indent
        | .listTypes _ => .ok ⟨0, String.join (d.registry.descriptors.map typeLine)⟩ := by
  cases r <;> rfl

/-- A request escapes exactly when its build stops on an uncaught catalog problem, and then with
that problem. -/
theorem perform_eq_error_iff (r : Request) (e : Escape) :
    perform files r = .error e ↔
      ∃ issue, r.built files = .error (.aborted issue) ∧ e = .catalog issue := by
  rw [perform_eq]
  rcases decoderFor_cases files r with ⟨d, hb, hd⟩ | ⟨issue, hb, hd⟩ |
      ⟨f, rep, hb, hrep, -, hd⟩ <;> rw [hd, hb] <;> dsimp only
  · simp only [reduceCtorEq, false_and, exists_false, iff_false]
    cases r with
    | decode payload types indent lenient =>
      rcases decodeText_cases hb payload indent with ⟨_, _, h⟩ | ⟨_, _, _, _, h⟩ | ⟨_, _, _, _, h⟩ <;>
        simp [h]
    | listTypes types => simp
  · simp only [Except.error.injEq, BuildFailure.aborted.injEq]
    constructor
    · rintro rfl
      exact ⟨issue, rfl, rfl⟩
    · rintro ⟨_, rfl, rfl⟩
      rfl
  · simp only [reduceCtorEq, Except.error.injEq, false_iff, not_exists, not_and]
    rintro issue rfl
    simp [BuildFailure.report?] at hrep

/-- A request that does not escape exits with `0` after all its stages succeed, printing what
they give, or with `1` after showing the error of its first failing stage. -/
theorem perform_ok {r : Request} {out : Outcome} (h : perform files r = .ok out) :
    (out.exit = 0 ∧ Succeeds files r out.stdout) ∨
      (out.exit = 1 ∧ ∃ s, FailsWith files r s ∧ out.stdout = s.text) := by
  rw [perform_eq] at h
  rcases decoderFor_cases files r with ⟨d, hb, hd⟩ | ⟨issue, hb, hd⟩ |
      ⟨f, rep, hb, hrep, hcode, hd⟩ <;> rw [hd] at h <;> dsimp only at h
  · cases r with
    | decode payload types indent lenient =>
      dsimp only at h
      rcases decodeText_cases hb payload indent with ⟨e, hp, h'⟩ | ⟨bs, m, hp, hm, h'⟩ |
          ⟨bs, e, hp, he, h'⟩ <;> rw [h'] at h <;> cases h
      · exact .inr ⟨rfl, _, .parse hb hp, errorLines_eq e.message (some payloadHint)⟩
      · exact .inl ⟨rfl, .decode hb hp hm⟩
      · obtain ⟨n, hn⟩ := outcome_of_decodeError e
        exact .inr ⟨rfl, _, .decode hb hp he hn, by rw [reportLines_eq, hn]⟩
    | listTypes types =>
      cases h
      exact .inl ⟨rfl, .listTypes hb⟩
  · cases h
  · cases h
    exact .inr ⟨rfl, _, .build hb hrep, by rw [reportLines_eq, hcode]⟩

/-- What the command does with every command line it accepts, whatever the catalog file holds.
It escapes, with no exit code, exactly when the catalog it names fails to load with an issue of
a kind the command does not catch, and then with that issue: no fault of decoding escapes.
Otherwise it exits with `0` after its stages (the build, the payload text, the decoding) all
succeed, printing what they give, or with `1` after showing the error of its first failing
stage, with a code exactly for a decoding error and a hint line exactly for a hint that is not
empty. The stages decide which: a request cannot both succeed and fail. -/
theorem run_request {argv : List String} {v : Nat} {r : Request}
    (hr : read argv = .request v r) :
    (∀ e, run argv files = .error e ↔ ∃ path issue, r.catalog = some path ∧ path ≠ "" ∧
        (Catalog.load path (files path)).specs = .error issue ∧ issue.kind.escapes = true ∧
        e = .catalog issue) ∧
    (∀ t s, Succeeds files r t → ¬ FailsWith files r s) ∧
    ∀ out, run argv files = .ok out →
      (out.exit = 0 ∧ Succeeds files r out.stdout) ∨
        (out.exit = 1 ∧ ∃ s, FailsWith files r s ∧ out.stdout = s.text) := by
  have hrun : run argv files = perform files r := by simp [run, hr]
  rw [hrun]
  refine ⟨fun e => ?_, fun t s hs hf => hs.not_failsWith hf, fun out h => perform_ok h⟩
  rw [perform_eq_error_iff]
  constructor
  · rintro ⟨issue, hb, rfl⟩
    obtain ⟨path, hpath, hne, hl, hesc⟩ := build_aborted_iff.mp hb
    -- the build read the catalog from what the request's path names
    simp only at hpath
    simp only [hpath, Option.map_some, Option.getD_some] at hl
    exact ⟨path, issue, hpath, hne, hl, hesc, rfl⟩
  · rintro ⟨path, issue, hpath, hne, hl, hesc, rfl⟩
    refine ⟨issue, build_aborted_iff.mpr ⟨path, hpath, hne, ?_, hesc⟩, rfl⟩
    simpa [hpath] using hl

theorem run_request_types :
    read ["types"] = .request 0 (.listTypes none) ∧
    (∀ e, run ["types"] (fun _ => .absent) = .error e ↔ ∃ path issue,
        (Request.listTypes none).catalog = some path ∧ path ≠ "" ∧
        (Catalog.load path PathEntry.absent).specs = .error issue ∧ issue.kind.escapes = true ∧
        e = .catalog issue) ∧
    (∀ t s, Succeeds (fun _ => .absent) (.listTypes none) t →
      ¬ FailsWith (fun _ => .absent) (.listTypes none) s) ∧
    ∀ out, run ["types"] (fun _ => .absent) = .ok out →
      (out.exit = 0 ∧ Succeeds (fun _ => .absent) (.listTypes none) out.stdout) ∨
        (out.exit = 1 ∧ ∃ s, FailsWith (fun _ => .absent) (.listTypes none) s ∧
          out.stdout = s.text) := by
  have hr : read ["types"] = .request 0 (.listTypes none) := by decide +kernel
  exact ⟨hr, run_request hr⟩

/- A catalog that names a type with a truth word the YAML reader does not know makes the command
raise, with no exit code. -/
example :
    (run ["types", "--types", "catalog.yml"] (fun _ =>
      .file "types:\n  0xF0:\n    name: !!bool y\n    fields:\n      - encode: uint8\n".toUTF8.toList)).toBool =
      false := by
  decide +kernel

end Command

end LowPowerPayload
