import LowPowerPayload.Proofs.Codec
import LowPowerPayload.Proofs.Layout
/-!
# The standard types as record layouts

Each standard type's fixed rule reads its data as a catalog type declared with the matching
field list would: the digital types and presence as one unnamed `uint8`, luminosity as one
unnamed `uint16`, analog values as one unnamed `int16` over 100, temperature as `int16` over 10,
humidity and barometric pressure as `uint16` over 10, the accelerometer and the gyrometer as
fields `x`, `y`, `z` of `int16` over 1000 and over 100, and a position as `latitude` and
`longitude` of `int24` over 10000 and `altitude` of `int24` over 100. `standardLayouts` writes
these field lists down, one type for each standard type.

The fixed rules read 16- and 24-bit integers through their own helpers and divide by literal
doubles; a layout reads through the codecs and divides by its divisor converted to a double.
`run_eq_layout_decode` shows that the two agree on all data of the type's width: the same
values, of the same kind, and record keys in the same order.
-/

namespace LowPowerPayload

/-- The three axes `x`, `y`, `z` as signed 16-bit fields over a divisor. -/
def axesFields (divisor : Int) : List Field :=
  [⟨some "x", "int16", .int divisor⟩, ⟨some "y", "int16", .int divisor⟩,
    ⟨some "z", "int16", .int divisor⟩]

/-- The standard types declared as catalog types, in the order of `StandardType.all`. -/
def standardLayouts : List TypeSpec :=
  [⟨0x00, "Digital Input", [⟨none, "uint8", .int 1⟩]⟩,
   ⟨0x01, "Digital Output", [⟨none, "uint8", .int 1⟩]⟩,
   ⟨0x02, "Analog Input", [⟨none, "int16", .int 100⟩]⟩,
   ⟨0x03, "Analog Output", [⟨none, "int16", .int 100⟩]⟩,
   ⟨0x65, "Luminosity", [⟨none, "uint16", .int 1⟩]⟩,
   ⟨0x66, "Presence", [⟨none, "uint8", .int 1⟩]⟩,
   ⟨0x67, "Temperature", [⟨none, "int16", .int 10⟩]⟩,
   ⟨0x68, "Humidity", [⟨none, "uint16", .int 10⟩]⟩,
   ⟨0x71, "Accelerometer", axesFields 1000⟩,
   ⟨0x73, "Barometer", [⟨none, "uint16", .int 10⟩]⟩,
   ⟨0x86, "Gyrometer", axesFields 100⟩,
   ⟨0x88, "GPS", [⟨some "latitude", "int24", .int 10000⟩, ⟨some "longitude", "int24", .int 10000⟩,
     ⟨some "altitude", "int24", .int 100⟩]⟩]

/-! ### Field values with integer divisors -/

namespace Field

/-- A field with divisor one of an integer encoding keeps the primitive's value. -/
theorem value_one {name : Option String} {enc : String}
    (hint : (⟨name, enc, .int 1⟩ : Field).encoding.isInteger = true) (bs : List UInt8) :
    value ⟨name, enc, .int 1⟩ bs = (⟨name, enc, .int 1⟩ : Field).encoding.read bs := by
  simp [value, hint, Datum.looseEq, Datum.intValue?]

/-- A field whose divisor is an integer other than one, with a double, divides the primitive's
value by that double. -/
theorem value_int {name : Option String} {enc : String} {n : Int} (hn : n ≠ 1)
    (hfit : Decimal.fitsDouble n = true) (bs : List UInt8) :
    value ⟨name, enc, .int n⟩ bs =
      scale ((⟨name, enc, .int n⟩ : Field).encoding.read bs) (Decimal.ofInt n) := by
  have hloose : (Datum.int n).looseEq (.int 1) = false := by
    simpa [Datum.looseEq, Datum.intValue?] using hn
  simp [value, hloose, divisorDouble, Datum.toFloat, hfit, Except.toOption]

/-- A field of a known encoding takes that encoding's size. -/
theorem width_mk {name : Option String} {enc : String} {d : Datum} {e : Encoding}
    (h : Encoding.ofName? enc = some e) : width ⟨name, enc, d⟩ = e.size := by
  simp [width, size_of_ofName? (f := ⟨name, enc, d⟩) h, Except.toOption]

/-- A field of a known encoding reads through that encoding. -/
theorem encoding_mk {name : Option String} {enc : String} {d : Datum} {e : Encoding}
    (h : Encoding.ofName? enc = some e) : encoding ⟨name, enc, d⟩ = e := by
  simp [encoding, h]

end Field

/-- The divisors of the standard types as doubles. -/
theorem Decimal.ofInt_powers_of_ten : Decimal.ofInt 10 = 10.0 ∧ Decimal.ofInt 100 = 100.0 ∧
    Decimal.ofInt 1000 = 1000.0 ∧ Decimal.ofInt 10000 = 10000.0 := by
  decide +kernel

/-! ### The layouts on data of their width -/

namespace TypeSpec

/-- A layout of one unnamed field reads as that field's value. -/
theorem reading_unnamed {s : TypeSpec} {enc : String} {d : Datum}
    (hs : s.fields = [⟨none, enc, d⟩]) (bs : List UInt8) :
    s.reading bs = Field.value ⟨none, enc, d⟩ bs := by
  simp [reading, hs]

/-- A layout of three fields reads each from the slice that follows the ones before it. -/
theorem entries_three {s : TypeSpec} {f₁ f₂ f₃ : Field} (hs : s.fields = [f₁, f₂, f₃])
    (bs : List UInt8) :
    s.entries bs =
      [(f₁.key, f₁.value (slice bs 0 f₁.width)),
        (f₂.key, f₂.value (slice bs f₁.width (f₁.width + f₂.width))),
        (f₃.key, f₃.value (slice bs (f₁.width + f₂.width) (f₁.width + f₂.width + f₃.width)))] := by
  simp only [entries, hs, Field.slice, slice, List.mapIdx_cons, List.mapIdx_nil, List.take_zero,
    List.take_succ_cons, List.map_nil, List.map_cons, List.sum_nil, List.sum_cons, Nat.add_zero,
    Nat.sub_zero, Nat.add_sub_cancel_left]

/-- The axes layout reads the three signed 16-bit values of its six bytes over its divisor. -/
theorem reading_axes {s : TypeSpec} {n : Int} (hs : s.fields = axesFields n) (hn : n ≠ 1)
    (hfit : Decimal.fitsDouble n = true) (bs : List UInt8) :
    s.reading bs = .record
      [("x", Field.scale (Encoding.int16.read (slice bs 0 2)) (Decimal.ofInt n)),
        ("y", Field.scale (Encoding.int16.read (slice bs 2 4)) (Decimal.ofInt n)),
        ("z", Field.scale (Encoding.int16.read (slice bs 4 6)) (Decimal.ofInt n))] := by
  have h16 : Encoding.ofName? "int16" = some .int16 := by decide
  rw [reading_of_ne (by simp [hs, axesFields]), entries_three hs]
  simp only [Field.value_int hn hfit, Field.width_mk h16, Field.encoding_mk h16]
  rfl

/-- The position layout reads the three signed 24-bit values of its nine bytes, latitude and
longitude over 10000 and altitude over 100. -/
theorem reading_position {s : TypeSpec}
    (hs : s.fields = [⟨some "latitude", "int24", .int 10000⟩,
      ⟨some "longitude", "int24", .int 10000⟩, ⟨some "altitude", "int24", .int 100⟩])
    (bs : List UInt8) :
    s.reading bs = .record
      [("latitude", Field.scale (Encoding.int24.read (slice bs 0 3)) (Decimal.ofInt 10000)),
        ("longitude", Field.scale (Encoding.int24.read (slice bs 3 6)) (Decimal.ofInt 10000)),
        ("altitude", Field.scale (Encoding.int24.read (slice bs 6 9)) (Decimal.ofInt 100))] := by
  have h24 : Encoding.ofName? "int24" = some .int24 := by decide
  rw [reading_of_ne (by simp [hs]), entries_three hs]
  simp only [Field.value_int (show (10000 : Int) ≠ 1 by decide) (by decide),
    Field.value_int (show (100 : Int) ≠ 1 by decide) (by decide), Field.width_mk h24,
    Field.encoding_mk h24]
  rfl

end TypeSpec

/-! ### The fixed rules on data of their width -/

/-- An integer divided by a double is the scaled reading of the integer. -/
theorem map_ratio (x : Except Fault Int) (d : Float) :
    x.map (ratio · d) = (x.map .int).map (Field.scale · d) := by
  cases x <;> rfl

/-- On exactly two bytes, the 16-bit helpers succeed with what the 16-bit codecs read. -/
theorem int16_read {bs : List UInt8} (h : bs.length = 2) :
    (uint16 bs).map .int = .ok (Encoding.uint16.read bs) ∧
      (int16 bs).map .int = .ok (Encoding.int16.read bs) := by
  have htake : bs.take 2 = bs := List.take_of_length_le (by omega)
  obtain ⟨hu, hs⟩ := @int16_map_int bs (by omega)
  rw [htake] at hu hs
  exact ⟨hu.trans (Encoding.decode_of_length (e := .uint16) h),
    hs.trans (Encoding.decode_of_length (e := .int16) h)⟩

/-- On exactly three bytes, the signed 24-bit helper succeeds with what the codec reads. -/
theorem int24_read {bs : List UInt8} (h : bs.length = 3) :
    (int24 bs).map .int = .ok (Encoding.int24.read bs) := by
  have htake : bs.take 3 = bs := List.take_of_length_le (by omega)
  have hs := (@int24_map_int bs (by omega)).2
  rw [htake] at hs
  exact hs.trans (Encoding.decode_of_length (e := .int24) h)

/-- A helper that succeeds with what a codec reads succeeds with an integer that the codec reads
as that integer. -/
theorem exists_of_map_int {x : Except Fault Int} {r : Reading} (h : x.map .int = .ok r) :
    ∃ v, x = .ok v ∧ r = .int v := by
  cases x with
  | error f => cases h
  | ok v => exact ⟨v, rfl, (Except.ok.inj h).symm⟩

theorem run_byte {bs : List UInt8} (h : bs.length = 1) :
    StandardRule.byte.run bs = .ok (Encoding.uint8.read bs) := by
  match bs, h with
  | [b], _ => simp [StandardRule.run, byteAt, Encoding.read, bigEndian, Except.map, Encoding.isSigned]

/-- A rule that reads a 16-bit value and divides it by a double reads as the codec's value
divided by that double. -/
theorem run_scaled {bs : List UInt8} (h : bs.length = 2) :
    StandardRule.analog.run bs = .ok (Field.scale (Encoding.int16.read bs) 100.0) ∧
    StandardRule.temperature.run bs = .ok (Field.scale (Encoding.int16.read bs) 10.0) ∧
    StandardRule.tenths.run bs = .ok (Field.scale (Encoding.uint16.read bs) 10.0) ∧
    StandardRule.luminosity.run bs = .ok (Encoding.uint16.read bs) := by
  obtain ⟨hu, hs⟩ := int16_read h
  refine ⟨?_, ?_, ?_, ?_⟩
  · rw [StandardRule.run, map_ratio, hs]
    rfl
  · rw [StandardRule.run, map_ratio, hs]
    rfl
  · rw [StandardRule.run, map_ratio, hu]
    rfl
  · rw [StandardRule.run, hu]

/-- The three axes read the three signed 16-bit values of the six bytes, each divided by the
scale. -/
theorem run_axes {bs : List UInt8} (h : bs.length = 6) (scale : Float) :
    (StandardRule.axes scale).run bs =
      .ok (.record [("x", Field.scale (Encoding.int16.read (slice bs 0 2)) scale),
        ("y", Field.scale (Encoding.int16.read (slice bs 2 4)) scale),
        ("z", Field.scale (Encoding.int16.read (slice bs 4 6)) scale)]) := by
  obtain ⟨x, hx, hrx⟩ := exists_of_map_int (int16_read (slice_length (a := 0) (b := 2)
    (show 2 ≤ bs.length by omega))).2
  obtain ⟨y, hy, hry⟩ := exists_of_map_int (int16_read (slice_length (a := 2) (b := 4)
    (show 4 ≤ bs.length by omega))).2
  obtain ⟨z, hz, hrz⟩ := exists_of_map_int (int16_read (slice_length (a := 4) (b := 6)
    (show 6 ≤ bs.length by omega))).2
  rw [hrx, hry, hrz]
  simp [StandardRule.run, hx, hy, hz, bind, Except.bind, pure, Except.pure, ratio, Field.scale]

/-- A position reads the three signed 24-bit values of the nine bytes, latitude and longitude
divided by 10000 and altitude by 100. -/
theorem run_position {bs : List UInt8} (h : bs.length = 9) :
    StandardRule.position.run bs =
      .ok (.record [("latitude", Field.scale (Encoding.int24.read (slice bs 0 3)) 10000.0),
        ("longitude", Field.scale (Encoding.int24.read (slice bs 3 6)) 10000.0),
        ("altitude", Field.scale (Encoding.int24.read (slice bs 6 9)) 100.0)]) := by
  obtain ⟨x, hx, hrx⟩ := exists_of_map_int (int24_read (slice_length (a := 0) (b := 3)
    (show 3 ≤ bs.length by omega)))
  obtain ⟨y, hy, hry⟩ := exists_of_map_int (int24_read (slice_length (a := 3) (b := 6)
    (show 6 ≤ bs.length by omega)))
  obtain ⟨z, hz, hrz⟩ := exists_of_map_int (int24_read (slice_length (a := 6) (b := 9)
    (show 9 ≤ bs.length by omega)))
  rw [hrx, hry, hrz]
  simp [StandardRule.run, hx, hy, hz, bind, Except.bind, pure, Except.pure, ratio, Field.scale]

/-! ### Agreement -/

/-- A standard type agrees with a catalog type: the same id, name and width, and its rule reads
all data of that width as the catalog type does. -/
def StandardType.AgreesWith (t : StandardType) (s : TypeSpec) : Prop :=
  t.typeId = s.typeId ∧ t.name = s.name ∧ t.width = s.byteWidth ∧
    ∀ bs : List UInt8, bs.length = t.width → t.rule.run bs = s.decode bs

/-- A standard type agrees with a catalog type the loader accepts, with divisors that have
doubles, when its rule reads every datum of its width as the type's layout does. -/
theorem StandardType.agreesWith_of_reading {t : StandardType} {s : TypeSpec} (hwf : s.WellFormed)
    (hfit : s.fields.all Field.divisorFits = true) (hid : t.typeId = s.typeId)
    (hname : t.name = s.name) (hwidth : t.width = s.byteWidth)
    (hrun : ∀ bs : List UInt8, bs.length = t.width → t.rule.run bs = .ok (s.reading bs)) :
    t.AgreesWith s := by
  refine ⟨hid, hname, hwidth, fun bs hlen => ?_⟩
  rw [hrun bs hlen, TypeSpec.decode_of_wellFormed hwf (hlen.trans hwidth), if_pos hfit]

/-- Every standard type agrees with its catalog declaration in `standardLayouts`: a catalog type
with the standard type's id, name and field list reads every datum of the type's width to the
same reading as the fixed rule. -/
theorem run_eq_layout_decode :
    List.Forall₂ StandardType.AgreesWith StandardType.all standardLayouts := by
  have h8 : Encoding.ofName? "uint8" = some .uint8 := by decide
  have hu16 : Encoding.ofName? "uint16" = some .uint16 := by decide
  have hs16 : Encoding.ofName? "int16" = some .int16 := by decide
  obtain ⟨h10, h100, h1000, h10000⟩ := Decimal.ofInt_powers_of_ten
  -- the layouts shared by several types: the bare byte, a signed value over 100, and an
  -- unsigned one over 10
  have hbyte : ∀ s : TypeSpec, s.fields = [⟨none, "uint8", .int 1⟩] → ∀ bs : List UInt8,
      bs.length = 1 → StandardRule.byte.run bs = .ok (s.reading bs) := by
    intro s hs bs h
    rw [run_byte h, TypeSpec.reading_unnamed hs, Field.value_one rfl, Field.encoding_mk h8]
  have hanalog : ∀ s : TypeSpec, s.fields = [⟨none, "int16", .int 100⟩] → ∀ bs : List UInt8,
      bs.length = 2 → StandardRule.analog.run bs = .ok (s.reading bs) := by
    intro s hs bs h
    rw [(run_scaled h).1, TypeSpec.reading_unnamed hs, Field.value_int (by decide) (by decide),
      Field.encoding_mk hs16, h100]
  have htenths : ∀ s : TypeSpec, s.fields = [⟨none, "uint16", .int 10⟩] → ∀ bs : List UInt8,
      bs.length = 2 → StandardRule.tenths.run bs = .ok (s.reading bs) := by
    intro s hs bs h
    rw [(run_scaled h).2.2.1, TypeSpec.reading_unnamed hs, Field.value_int (by decide) (by decide),
      Field.encoding_mk hu16, h10]
  -- the rules read as the layouts, type by type
  have hread : List.Forall₂ (fun (t : StandardType) (s : TypeSpec) => ∀ bs : List UInt8,
      bs.length = t.width → t.rule.run bs = .ok (s.reading bs)) StandardType.all standardLayouts := by
    unfold StandardType.all standardLayouts
    refine .cons (hbyte _ rfl) (.cons (hbyte _ rfl) (.cons (hanalog _ rfl) (.cons (hanalog _ rfl)
      (.cons ?luminosity (.cons (hbyte _ rfl) (.cons ?temperature (.cons (htenths _ rfl)
      (.cons ?accelerometer (.cons (htenths _ rfl) (.cons ?gyrometer (.cons ?position .nil)))))))))))
    case luminosity =>
      intro bs h
      rw [(run_scaled h).2.2.2, TypeSpec.reading_unnamed rfl, Field.value_one rfl,
        Field.encoding_mk hu16]
    case temperature =>
      intro bs h
      rw [(run_scaled h).2.1, TypeSpec.reading_unnamed rfl, Field.value_int (by decide) (by decide),
        Field.encoding_mk hs16, h10]
    case accelerometer =>
      intro bs h
      rw [run_axes h, TypeSpec.reading_axes rfl (by decide) (by decide), h1000]
    case gyrometer =>
      intro bs h
      rw [run_axes h, TypeSpec.reading_axes rfl (by decide) (by decide), h100]
    case position =>
      intro bs h
      rw [run_position h, TypeSpec.reading_position rfl, h10000, h100]
  -- ids, names and widths agree, and the loader accepts every layout, by computation
  have hmeta : List.Forall₂ (fun (t : StandardType) (s : TypeSpec) => s.WellFormed ∧
      s.fields.all Field.divisorFits = true ∧ t.typeId = s.typeId ∧ t.name = s.name ∧
      t.width = s.byteWidth) StandardType.all standardLayouts := by
    decide
  exact hmeta.mp (fun _ _ ⟨hwf, hfit, hid, hname, hwidth⟩ hrun =>
    StandardType.agreesWith_of_reading hwf hfit hid hname hwidth hrun) hread

end LowPowerPayload
