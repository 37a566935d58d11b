import LowPowerPayload.Proofs.Build
import LowPowerPayload.Proofs.Failure
/-!
# No fault passes through a built decoder

A failure of decoding is a payload error, which the command reports, or a fault of a standard
type's rule, which nothing catches. This module shows that the second never happens on a decoder
that a build gives. The frame loop hands a rule exactly as many bytes as its type's width
(`Registry.decode_fault`), a standard rule reads that many bytes without fault
(`StandardType.apply_ok`), and a custom rule's failure is a payload error. A build only adds
custom descriptors to the standard registry, so its decoder keeps the standard types' own
descriptors (`build_ok_registry`), and decoding with it never lets a fault through
(`build_decode_ne_fault`).
-/

namespace LowPowerPayload

/-! ### Standard rules on data of their width -/

/-- The most digits an integer may have, in figures. -/
theorem maxIntDigits_eq : maxIntDigits = 2305843009213693945 := by
  unfold maxIntDigits
  norm_num

theorem byteAt_of_lt {bs : List UInt8} {i : Nat} (h : i < bs.length) :
    byteAt bs i = .ok bs[i].toNat := by
  simp [byteAt, List.getElem?_eq_getElem h]

/-- A power of two of at most 24 bits can be formed in any memory that holds an integer of two
digits. -/
theorem checkPower_of_le {memory s : Nat} (h : s ≤ 24) (hm : 32 ≤ memory) :
    checkPower memory s = .ok () := by
  have hd : powerDigits s ≤ 2 := by
    unfold powerDigits
    split <;> omega
  unfold checkPower
  rw [if_neg (by rw [maxIntDigits_eq]; omega), if_neg (by omega)]

/-- The codec's helpers have the memory for every power of two they form. -/
theorem thirtyTwo_le_memoryBytes : 32 ≤ memoryBytes := by
  unfold memoryBytes
  norm_num

/-- Two's-complement reading at a width of up to 24 bits never fails. -/
theorem signExtend_ok {memory : Nat} (hm : 32 ≤ memory) (value : Int) (bits : Nat) (h0 : 0 < bits)
    (h24 : bits ≤ 24) : ∃ v, signExtend memory value bits = .ok v := by
  have hlow : checkPower memory ((bits : Int) - 1).toNat = .ok () :=
    checkPower_of_le (by omega) hm
  unfold signExtend
  simp only [bind, Except.bind, pure, Except.pure, Int.toNat_natCast, hlow,
    checkPower_of_le h24 hm]
  rw [if_neg (by omega)]
  split <;> exact ⟨_, rfl⟩

theorem uint16_ok (bs : List UInt8) (h : 2 ≤ bs.length) : ∃ v, uint16 bs = .ok v := by
  simp [uint16, bind, Except.bind, pure, Except.pure, byteAt_of_lt (show 0 < bs.length by omega),
    byteAt_of_lt (show 1 < bs.length by omega)]

theorem int16_ok (bs : List UInt8) (h : 2 ≤ bs.length) : ∃ v, int16 bs = .ok v := by
  obtain ⟨u, hu⟩ := uint16_ok bs h
  obtain ⟨v, hv⟩ := signExtend_ok thirtyTwo_le_memoryBytes u 16 (by omega) (by omega)
  exact ⟨v, by simpa [int16, hu, bind, Except.bind] using hv⟩

theorem int24_ok (bs : List UInt8) (h : 3 ≤ bs.length) : ∃ v, int24 bs = .ok v := by
  have hu : ∃ u, uint24 bs = .ok u := by
    simp [uint24, bind, Except.bind, pure, Except.pure,
      byteAt_of_lt (show 0 < bs.length by omega), byteAt_of_lt (show 1 < bs.length by omega),
      byteAt_of_lt (show 2 < bs.length by omega)]
  obtain ⟨u, hu⟩ := hu
  obtain ⟨v, hv⟩ := signExtend_ok thirtyTwo_le_memoryBytes u 24 (by omega) (by omega)
  exact ⟨v, by simpa [int24, hu, bind, Except.bind] using hv⟩

/-- The number of bytes a standard rule reads. -/
def StandardRule.width : StandardRule → Nat
  | .byte => 1
  | .analog | .luminosity | .temperature | .tenths => 2
  | .axes _ => 6
  | .position => 9

theorem slice_length {bs : List UInt8} {a b : Nat} (h : b ≤ bs.length) :
    (slice bs a b).length = b - a := by
  simp [slice]
  omega

/-- A standard rule reads data of at least its width without fault. -/
theorem StandardRule.run_ok (rule : StandardRule) (data : List UInt8)
    (h : rule.width ≤ data.length) : ∃ v, rule.run data = .ok v := by
  cases rule with
  | byte =>
    simp [run, byteAt_of_lt (show 0 < data.length by simp [width] at h; omega), Except.map]
  | analog =>
    obtain ⟨v, hv⟩ := int16_ok data (by simpa [width] using h)
    simp [run, hv, Except.map]
  | luminosity =>
    obtain ⟨v, hv⟩ := uint16_ok data (by simpa [width] using h)
    simp [run, hv, Except.map]
  | temperature =>
    obtain ⟨v, hv⟩ := int16_ok data (by simpa [width] using h)
    simp [run, hv, Except.map]
  | tenths =>
    obtain ⟨v, hv⟩ := uint16_ok data (by simpa [width] using h)
    simp [run, hv, Except.map]
  | axes scale =>
    simp only [width] at h
    -- each axis reads two bytes of the six
    have hx2 : (slice data 0 2).length = 2 := slice_length (by omega)
    have hy2 : (slice data 2 4).length = 2 := slice_length (by omega)
    have hz2 : (slice data 4 6).length = 2 := slice_length (by omega)
    obtain ⟨x, hx⟩ := int16_ok (slice data 0 2) (by omega)
    obtain ⟨y, hy⟩ := int16_ok (slice data 2 4) (by omega)
    obtain ⟨z, hz⟩ := int16_ok (slice data 4 6) (by omega)
    simp [run, hx, hy, hz, bind, Except.bind, pure, Except.pure]
  | position =>
    simp only [width] at h
    -- latitude, longitude and altitude read three bytes each of the nine
    have hx3 : (slice data 0 3).length = 3 := slice_length (by omega)
    have hy3 : (slice data 3 6).length = 3 := slice_length (by omega)
    have hz3 : (slice data 6 9).length = 3 := slice_length (by omega)
    obtain ⟨x, hx⟩ := int24_ok (slice data 0 3) (by omega)
    obtain ⟨y, hy⟩ := int24_ok (slice data 3 6) (by omega)
    obtain ⟨z, hz⟩ := int24_ok (slice data 6 9) (by omega)
    simp [run, hx, hy, hz, bind, Except.bind, pure, Except.pure]

namespace StandardType

/-- Each standard type's width is the width its rule reads. -/
theorem width_eq {s : StandardType} (hs : s ∈ all) : s.width = s.rule.width := by
  simp only [all, List.mem_cons, List.not_mem_nil, or_false] at hs
  rcases hs with rfl | rfl | rfl | rfl | rfl | rfl | rfl | rfl | rfl | rfl | rfl | rfl <;> rfl

/-- Each standard type's id has that type's rule. -/
theorem ofId?_typeId {s : StandardType} (hs : s ∈ all) : StandardRule.ofId? s.typeId = some s.rule := by
  simp only [all, List.mem_cons, List.not_mem_nil, or_false] at hs
  rcases hs with rfl | rfl | rfl | rfl | rfl | rfl | rfl | rfl | rfl | rfl | rfl | rfl <;> rfl

/-- A standard type reads data of its width without fault. -/
theorem apply_ok {s : StandardType} (hs : s ∈ all) (data : List UInt8)
    (h : data.length = s.width) :
    ∃ v, s.descriptor.apply data = .ok v := by
  obtain ⟨v, hv⟩ := s.rule.run_ok data (Nat.le_of_eq (by rw [h, width_eq hs]))
  exact ⟨v, by simp [Descriptor.apply, descriptor, ofId?_typeId hs, hv, Except.mapError]⟩

end StandardType

/-- Only a standard type's rule lets a fault through: a custom rule's failure is a payload
error. -/
theorem Descriptor.standard_of_apply_fault {d : Descriptor} {data : List UInt8} {f : Fault}
    (h : d.apply data = .error (.fault f)) : d.standard = true := by
  unfold Descriptor.apply at h
  split at h
  · assumption
  · split at h
    · cases h
    · cases h
    · next rule _ =>
      cases hr : rule.run data <;> simp [hr, Except.mapError] at h

namespace Registry

variable {r : Registry}

/-- Every standard descriptor of the registry is the descriptor of a standard type. -/
def StandardsFromTable (r : Registry) : Prop :=
  ∀ e ∈ r.descriptors, e.standard = true → ∃ s ∈ StandardType.all, e = s.descriptor

theorem standardsFromTable_standard : standard.StandardsFromTable := by
  intro e he _
  rw [standard_descriptors, List.mem_map] at he
  obtain ⟨s, hs, rfl⟩ := he
  exact ⟨s, hs, rfl⟩

theorem StandardsFromTable.insert (h : r.StandardsFromTable) {d : Descriptor}
    (hd : d.standard = false) : (r.insert d).StandardsFromTable := by
  intro e he hs
  rcases mem_insert he with rfl | he
  · simp [hd] at hs
  · exact h e he hs

/-- On a registry without negative widths whose standard descriptors are those of the standard
types, decoding never lets a fault through. -/
theorem decode_ne_fault (hw : r.WidthsNonneg) (ht : r.StandardsFromTable) (bs : List UInt8)
    (f : Fault) : r.decode bs ≠ .error (.fault f) := by
  intro h
  obtain ⟨t, d, data, hd, hlen, happ⟩ := decode_fault hw h
  obtain ⟨s, hs, rfl⟩ := ht d (List.mem_of_find?_eq_some hd) (Descriptor.standard_of_apply_fault happ)
  simp only [StandardType.descriptor] at hlen
  obtain ⟨v, hv⟩ := StandardType.apply_ok hs data (by omega)
  rw [hv] at happ
  cases happ

end Registry

/-! ### Decoders a build gives -/

open Registry

/-- Registering catalog types keeps every property of registries that inserting a well-formed
catalog type keeps. -/
theorem registerSpecs_keeps (P : Registry → Prop)
    (step : ∀ (r : Registry) (s : TypeSpec), s.WellFormed → P r → P (r.insert s.descriptor))
    (d : Decoder) (specs : List TypeSpec) (hwf : ∀ s ∈ specs, s.WellFormed) (h : P d.registry) :
    P (registerSpecs d specs).1.registry := by
  induction specs generalizing d with
  | nil => exact h
  | cons s rest ih =>
    have hs := hwf s List.mem_cons_self
    have hrest : ∀ x ∈ rest, x.WellFormed := fun x hx => hwf x (List.mem_cons_of_mem _ hx)
    simp only [registerSpecs, Decoder.addNamed_typeSpec d hs.typeId_le hs.one_le_byteWidth]
    cases d.registry.find? s.typeId with
    | none => exact ih ⟨d.registry.insert s.descriptor⟩ hrest (step _ s hs h)
    | some e => exact ih d hrest h

/-- Every decoder a build gives is sound, and its standard descriptors are those of the
standard types. -/
theorem build_ok_registry {config : BuildConfig} {entry : PathEntry} {d : Decoder}
    (h : (build config entry).2 = .ok d) :
    d.registry.Sound ∧ d.registry.StandardsFromTable := by
  have hfresh : Decoder.fresh.registry.Sound ∧ Decoder.fresh.registry.StandardsFromTable :=
    ⟨sound_standard, standardsFromTable_standard⟩
  -- inserting a loaded type adds a custom descriptor with an id in `0..255` and a width of at
  -- least one
  have step : ∀ (r : Registry) (s : TypeSpec), s.WellFormed → r.Sound ∧ r.StandardsFromTable →
      (r.insert s.descriptor).Sound ∧ (r.insert s.descriptor).StandardsFromTable :=
    fun r s hs ⟨hsound, htable⟩ =>
      ⟨hsound.insert (by omega) (by have := hs.typeId_le; omega)
          (by have := hs.one_le_byteWidth; omega),
        htable.insert rfl⟩
  unfold build at h
  split at h
  · cases h
    exact hfresh
  · cases h
    exact hfresh
  · dsimp only at h
    split at h
    · cases h
    · next specs hl =>
      obtain ⟨hwf, -⟩ := Catalog.load_wellFormed hl
      have hkeep := registerSpecs_keeps _ step Decoder.fresh specs hwf hfresh
      rcases hreg : registerSpecs Decoder.fresh specs with ⟨d', events, refused⟩
      rw [hreg] at hkeep h
      dsimp only at h
      split at h
      · cases h
      · cases h
        exact hkeep

/-- Decoding with a decoder a build gives fails only with a payload error. -/
theorem build_decode_ne_fault {config : BuildConfig} {entry : PathEntry} {d : Decoder}
    (h : (build config entry).2 = .ok d) (bs : List UInt8) (f : Fault) :
    (d.decode bs).2 ≠ .error (.fault f) :=
  have hd := build_ok_registry h
  decode_ne_fault hd.1.widths hd.2 bs f

end LowPowerPayload
