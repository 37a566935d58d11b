import LowPowerPayload.Build
import LowPowerPayload.Proofs.Registry
import LowPowerPayload.Proofs.Loaded
/-!
# Building a decoder from a catalog

`build` registers the types of a loaded catalog, in file order, into a fresh registry. The loader
guarantees each type an id in `0..255`, a width of at least one and a rule, and no id twice
(`TypeSpec.WellFormed`, `Catalog.load_wellFormed`), so the registry can refuse a type for one
reason only: its id is a standard one. `registerSpecs_spec` states the run of registrations:
the refused types are those whose id was taken before the run, and the registry afterwards
holds its old descriptors and one new descriptor per free type.

From it, `build_catalog` says what a build with a catalog gives: a strict build with colliding
types fails and names the colliding ids in ascending order; otherwise, in strict and lenient
mode alike, the decoder holds the standard types unchanged and each other catalog type under
its id, and a frame of such a type decodes to the type's own reading, a failure of it being
reported as the rule failing. A catalog that cannot be loaded for a missing file, a text that
is not YAML or a wrong declaration fails the build with the catalog's issue.
-/

namespace LowPowerPayload

/-- The descriptor a catalog type is registered as: a custom type whose rule is its layout. -/
def TypeSpec.descriptor (s : TypeSpec) : Descriptor :=
  ⟨s.typeId, s.name, s.byteWidth, false, .ready (.layout s.fields)⟩

/-- The ids of the standard types. -/
def StandardType.ids : List Nat := StandardType.all.map StandardType.typeId

namespace Registry

variable {r : Registry}

theorem standard_descriptors :
    standard.descriptors = StandardType.all.map StandardType.descriptor := rfl

/-- An id finds a standard descriptor exactly when it is a standard id. -/
theorem find?_standard_isSome_iff (k : Nat) : (standard.find? k).isSome ↔ k ∈ StandardType.ids := by
  simp only [find?, standard_descriptors, List.find?_map, Option.isSome_map, List.find?_isSome,
    StandardType.ids, List.mem_map]
  constructor
  · rintro ⟨s, hs, heq⟩
    simp only [Function.comp_apply, StandardType.descriptor, beq_iff_eq] at heq
    exact ⟨s, hs, by omega⟩
  · rintro ⟨s, hs, rfl⟩
    exact ⟨s, hs, by simp [StandardType.descriptor]⟩

/-- A payload of one frame whose data is as wide as the descriptor of its id decodes to the
rule's reading under the frame's key, or fails as the rule does. -/
theorem decode_frame {c t : UInt8} {data : List UInt8} {d : Descriptor}
    (hd : r.find? t.toNat = some d) (hlen : (data.length : Int) = d.width) :
    r.decode (c :: t :: data) =
      (d.apply data).map (fun v => KeyedMap.ofList [(d.outputKey c.toNat, v)]) := by
  have hnn : 0 ≤ d.width := by omega
  have hw : d.width.toNat = data.length := by omega
  rw [decode_of_ne_nil (by simp), scanFrom.eq_3]
  simp only [hd, hnn, if_true, hw, Nat.lt_irrefl, if_false, List.take_length, List.drop_length]
  cases d.apply data with
  | error e => rfl
  | ok v =>
    simp [scanFrom.eq_1, Scan.cons, Scan.result, Scan.payload_eq, Frame.entry, KeyedMap.ofList,
      Except.map]

end Registry

namespace Decoder

open Registry

/-- Registering a type with an id in `0..255` and a width of at least one succeeds exactly when
its id is free, and then adds the type's descriptor; otherwise nothing changes. -/
theorem addNamed_typeSpec (d : Decoder) {s : TypeSpec} (h255 : s.typeId ≤ 255)
    (hw : 1 ≤ s.byteWidth) :
    d.addNamed (.int s.typeId) s.name (.int s.byteWidth) (.ready (.layout s.fields)) =
      match d.registry.find? s.typeId with
      | none => (true, ⟨d.registry.insert s.descriptor⟩, [.registered s.typeId s.name s.byteWidth])
      | some e =>
        (false, d, [.rejected (.int s.typeId) (if e.standard then .standardType else .duplicate)]) := by
  have hrange : ¬ ((s.typeId : Int) < 0 ∨ (s.typeId : Int) > 255) := by omega
  have hw' : ¬ ((s.byteWidth : Int) < 1) := by omega
  -- the id is in range and the width positive, so only what the registry holds decides
  cases hf : d.registry.find? s.typeId <;>
    simp only [addNamed, approve, if_neg hrange, hf, if_neg hw', Approval.descriptor,
      TypeSpec.descriptor]

end Decoder

/-- On types with distinct ids, `find?` at the id of one of them finds it. -/
theorem TypeSpec.find?_typeId {specs : List TypeSpec} (hnd : (specs.map TypeSpec.typeId).Nodup)
    {s : TypeSpec} (hs : s ∈ specs) :
    specs.find? (fun x => (x.typeId : Int) == s.typeId) = some s := by
  induction specs with
  | nil => cases hs
  | cons x rest ih =>
    simp only [List.map_cons, List.nodup_cons] at hnd
    rcases List.mem_cons.mp hs with rfl | hmem
    · simp
    · have hne : x.typeId ≠ s.typeId := fun heq => hnd.1 (heq ▸ List.mem_map.mpr ⟨s, hmem, rfl⟩)
      rw [List.find?_cons_of_neg (by simp; omega)]
      exact ih hnd.2 hmem

open Registry in
/-- Registering well-formed types with distinct ids, in order, refuses exactly the types whose
id the registry held before, in their order; afterwards the registry holds its old descriptors
and, under every other id, the descriptor of the type with that id. -/
theorem registerSpecs_spec (d : Decoder) (specs : List TypeSpec)
    (hwf : ∀ s ∈ specs, s.WellFormed) (hnd : (specs.map TypeSpec.typeId).Nodup) :
    (registerSpecs d specs).2.2 =
        (specs.filter (fun s => (d.registry.find? s.typeId).isSome)).map TypeSpec.typeId ∧
      ∀ k, (registerSpecs d specs).1.registry.find? k =
        (d.registry.find? k).or ((specs.find? (fun s => (s.typeId : Int) == k)).map
          TypeSpec.descriptor) := by
  induction specs generalizing d with
  | nil => simp [registerSpecs]
  | cons s rest ih =>
    have hs := hwf s List.mem_cons_self
    have hrest : ∀ x ∈ rest, x.WellFormed := fun x hx => hwf x (List.mem_cons_of_mem _ hx)
    simp only [List.map_cons, List.nodup_cons] at hnd
    -- the later types have other ids, so registering `s` does not change what they find
    have hne : ∀ x ∈ rest, (s.typeId : Int) ≠ x.typeId := fun x hx heq =>
      hnd.1 (List.mem_map.mpr ⟨x, hx, by omega⟩)
    have hnone : rest.find? (fun x => (x.typeId : Int) == s.typeId) = none := by
      rw [List.find?_eq_none]
      intro x hx
      simp only [beq_iff_eq]
      exact fun h => hne x hx h.symm
    simp only [registerSpecs, Decoder.addNamed_typeSpec d hs.typeId_le hs.one_le_byteWidth]
    cases hf : d.registry.find? s.typeId with
    | none =>
      obtain ⟨ih1, ih2⟩ := ih ⟨d.registry.insert s.descriptor⟩ hrest hnd.2
      refine ⟨?_, fun k => ?_⟩
      · rw [ih1]
        simp only [List.filter_cons, hf, Option.isSome_none, Bool.false_eq_true, ↓reduceIte]
        congr 1
        apply List.filter_congr
        intro x hx
        rw [find?_insert, if_neg (by simpa [TypeSpec.descriptor] using hne x hx)]
      · rw [ih2, find?_insert]
        by_cases hk : (s.typeId : Int) = k
        · subst hk
          simp [TypeSpec.descriptor, hf, hnone]
        · simp [TypeSpec.descriptor, hk, List.find?_cons_of_neg]
    | some e =>
      obtain ⟨ih1, ih2⟩ := ih d hrest hnd.2
      refine ⟨?_, fun k => ?_⟩
      · rw [ih1]
        simp [hf]
      · rw [ih2]
        by_cases hk : (s.typeId : Int) = k
        · subst hk
          simp [hf]
        · simp [hk, List.find?_cons_of_neg]

/-- Sorting distinct ids gives them in strictly ascending order. -/
theorem sortIds_spec {ids : List Nat} (hnd : ids.Nodup) :
    (sortIds ids).Pairwise (· < ·) ∧ ∀ k, k ∈ sortIds ids ↔ k ∈ ids := by
  have hperm := List.mergeSort_perm ids (fun a b => decide (a ≤ b))
  have hsorted : (sortIds ids).Pairwise (fun a b => decide (a ≤ b) = true) :=
    List.pairwise_mergeSort (fun a b c hab hbc => by simp at *; omega)
      (fun a b => by simpa using Nat.le_total a b) ids
  have hnd' : (sortIds ids).Nodup := hperm.nodup_iff.mpr hnd
  refine ⟨(hsorted.and hnd').imp fun ⟨hle, hne⟩ => ?_, fun k => hperm.mem_iff⟩
  simp at hle
  omega

section Build

variable {config : BuildConfig} {path : String} {entry : PathEntry}

open Registry

/-- With a catalog path, a build loads the catalog and registers its types into a fresh
decoder. -/
theorem build_of_path (hpath : config.typesFile = some path) (hne : path ≠ "") :
    build config entry =
      match (Catalog.load path entry).specs with
      | .error issue =>
        ([], .error (if issue.kind.escapes then .aborted issue else .unloadable path issue))
      | .ok specs =>
        let (d, events, refused) := registerSpecs Decoder.fresh specs
        let refused := sortIds refused
        if config.strict && !refused.isEmpty then (events, .error (.refused path refused))
        else
          let skipped :=
            if refused.isEmpty then [] else [Event.catalogSkipped (refused.map Int.ofNat)]
          let applied := Event.catalogApplied path ((Catalog.load path entry).digest.getD "")
            (specs.length - refused.length)
          (events ++ skipped ++ [applied], .ok d) := by
  unfold build
  split
  · simp_all
  · simp_all
  · next p _ heq =>
    obtain rfl : path = p := Option.some.inj (hpath.symm.trans heq)
    rfl

/-- The ids of the catalog types that collide with a standard type, in catalog order. -/
def collisions (specs : List TypeSpec) : List Nat :=
  (specs.filter (fun s => s.typeId ∈ StandardType.ids)).map TypeSpec.typeId

/-- Registering catalog types into a fresh decoder refuses exactly the standard ids. -/
theorem registerSpecs_fresh {specs : List TypeSpec} (hwf : ∀ s ∈ specs, s.WellFormed)
    (hnd : (specs.map TypeSpec.typeId).Nodup) :
    (registerSpecs Decoder.fresh specs).2.2 = collisions specs := by
  rw [(registerSpecs_spec Decoder.fresh specs hwf hnd).1, collisions]
  congr 1
  apply List.filter_congr
  intro s _
  rw [Bool.eq_iff_iff, decide_eq_true_eq]
  exact find?_standard_isSome_iff s.typeId

theorem collisions_nodup {specs : List TypeSpec} (hnd : (specs.map TypeSpec.typeId).Nodup) :
    (collisions specs).Nodup :=
  (List.filter_sublist.map TypeSpec.typeId).nodup hnd

/-- A registry that finds the standard types and, under every other id, the catalog types,
finds a catalog type off the standard ids at the id byte of its frames. -/
theorem find?_idByte {specs : List TypeSpec} {r : Registry} (hwf : ∀ s ∈ specs, s.WellFormed)
    (hnd : (specs.map TypeSpec.typeId).Nodup)
    (hfind : ∀ k, r.find? k = (standard.find? k).or
      ((specs.find? (fun s => (s.typeId : Int) == k)).map TypeSpec.descriptor))
    {s : TypeSpec} (hs : s ∈ specs) (hstd : s.typeId ∉ StandardType.ids) :
    r.find? s.typeId.toUInt8.toNat = some s.descriptor := by
  have hid : s.typeId.toUInt8.toNat = s.typeId := by
    simpa using Nat.mod_eq_of_lt (Nat.lt_succ_of_le (hwf s hs).typeId_le)
  have hnone : standard.find? s.typeId = none :=
    Option.not_isSome_iff_eq_none.mp ((find?_standard_isSome_iff s.typeId).not.mpr hstd)
  rw [hid, hfind, hnone, TypeSpec.find?_typeId hnd hs]
  rfl

/-- What a build with a catalog gives. A catalog that is missing, not YAML or declares something
wrong fails the build with its issue. A loaded catalog whose types collide with standard types
fails a strict build, naming the colliding ids in ascending order. Otherwise the build gives a
decoder that finds the standard types as they are and every other catalog type under its id,
and reads a frame of such a type with the type's layout, a failure of the layout being reported
as the type's rule failing. -/
theorem build_catalog (hpath : config.typesFile = some path) (hne : path ≠ "") :
    (∀ issue, (Catalog.load path entry).specs = .error issue →
        (issue.kind = .missing ∨ issue.kind = .malformed ∨ issue.kind = .invalid) →
        (build config entry).2 = .error (.unloadable path issue)) ∧
    ∀ specs, (Catalog.load path entry).specs = .ok specs →
      (config.strict = true → collisions specs ≠ [] →
        ∃ ids, (build config entry).2 = .error (.refused path ids) ∧ ids.Pairwise (· < ·) ∧
          ∀ k, k ∈ ids ↔ k ∈ collisions specs) ∧
      (config.strict = false ∨ collisions specs = [] →
        ∃ d, (build config entry).2 = .ok d ∧
          (∀ k, d.registry.find? k = (standard.find? k).or
            ((specs.find? (fun s => (s.typeId : Int) == k)).map TypeSpec.descriptor)) ∧
          ∀ s ∈ specs, s.typeId ∉ StandardType.ids → ∀ (c : UInt8) (data : List UInt8),
            data.length = s.byteWidth →
            d.registry.decode (c :: s.typeId.toUInt8 :: data) =
              ((s.decode data).mapError (fun f => .payload (.ruleFailed s.name s.typeId f))).map
                (fun v => KeyedMap.ofList [(s.descriptor.outputKey c.toNat, v)])) := by
  rw [build_of_path hpath hne]
  refine ⟨fun issue hl hkind => ?_, fun specs hl => ?_⟩
  · have hesc : issue.kind.escapes = false := by
      rcases hkind with h | h | h <;> simp [h, IssueKind.escapes]
    simp [hl, hesc]
  obtain ⟨hwf, hnd⟩ := Catalog.load_wellFormed hl
  have hrefused := registerSpecs_fresh hwf hnd
  have hfind := (registerSpecs_spec Decoder.fresh specs hwf hnd).2
  obtain ⟨hsorted, hmem⟩ := sortIds_spec (collisions_nodup hnd)
  -- the sorted ids are empty exactly when there are no collisions
  have hempty : sortIds (collisions specs) = [] ↔ collisions specs = [] := by
    simp only [List.eq_nil_iff_forall_not_mem, hmem]
  simp only [hl]
  rcases hreg : registerSpecs Decoder.fresh specs with ⟨d, events, refused⟩
  rw [hreg] at hrefused hfind
  simp only [Decoder.fresh] at hfind
  subst hrefused
  refine ⟨fun hstrict hcol => ?_, fun hlenient => ?_⟩
  · refine ⟨sortIds (collisions specs), ?_, hsorted, hmem⟩
    simp [hstrict, hempty, hcol]
  refine ⟨d, ?_, hfind, fun s hs hstd c data hlen => ?_⟩
  · rcases hlenient with h | h <;> simp [h, sortIds]
  rw [decode_frame (find?_idByte hwf hnd hfind hs hstd) (by simp [TypeSpec.descriptor, hlen])]
  rfl

/-- The battery catalog builds a decoder that reads a battery frame on channel 1 as its
voltage: 3700 millivolts over the divisor 1000. -/
theorem build_batteryCatalog_decodes :
    ∃ d, (build { typesFile := some "types.yml" }
        (.file Catalog.batteryCatalog.toUTF8.toList)).2 = .ok d ∧
      d.registry.decode [0x01, 0xF0, 0x0E, 0x74] =
        .ok (KeyedMap.ofList [("Battery_1",
          .record [("voltage", .real (Decimal.ofInt 3700 / Decimal.ofInt 1000))])]) := by
  have htext : (Catalog.textOf Catalog.batteryCatalog.toUTF8.toList).toOption =
      some Catalog.batteryCatalog := by
    decide +kernel
  have hload : (Catalog.load "types.yml" (.file Catalog.batteryCatalog.toUTF8.toList)).specs =
      .ok [Catalog.batterySpec] := by
    cases h : Catalog.textOf Catalog.batteryCatalog.toUTF8.toList with
    | error f => rw [h] at htext; cases htext
    | ok text =>
      rw [h] at htext
      cases htext
      simp only [Catalog.load, Catalog.read, h, Catalog.parse_batteryCatalog]
  obtain ⟨d, hd, -, hdec⟩ := ((build_catalog
    (rfl : ({ typesFile := some "types.yml" } : BuildConfig).typesFile = some "types.yml")
    (by decide)).2 [Catalog.batterySpec] hload).2 (Or.inr (by decide))
  refine ⟨d, hd, ?_⟩
  -- the frame is the battery type's, with data of its width
  have hframe :=
    hdec Catalog.batterySpec (List.mem_singleton_self _) (by decide) 0x01 [0x0E, 0x74] rfl
  rw [show ([0x01, 0xF0, 0x0E, 0x74] : List UInt8) =
    0x01 :: Catalog.batterySpec.typeId.toUInt8 :: [0x0E, 0x74] from rfl, hframe,
    Catalog.batterySpec_decode]
  rfl

end Build

end LowPowerPayload
