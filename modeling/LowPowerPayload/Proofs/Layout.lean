import LowPowerPayload.Proofs.Loaded
import LowPowerPayload.Proofs.Double
import LowPowerPayload.Proofs.KeyedMap
/-!
# Reading a record layout

A catalog type reads its data by its layout, `TypeSpec.decode`. For every type the loader
accepts and data of the type's width, `TypeSpec.decode_of_wellFormed` gives the reading: one
unnamed field reads as its value, and any other layout as the record of its fields in order,
each under its name and read from the bytes at the total width of the fields before it. These
slices partition the data (`Field.flatten_slices`). A field's value is the primitive its
encoding reads, kept as it is when the divisor equals one and the encoding is an integer one,
and otherwise divided by the divisor as a double.

One thing can fail: an integer divisor past the largest double has no double, and the reading
then fails with `floatOverflow`. Nothing else can, since the loader leaves known encodings only,
every slice has its encoding's size, and no nonzero divisor is zero as a double
(`Decimal.ofInt_beq_zero`).
-/

namespace LowPowerPayload

namespace Field

/-- The number of bytes a field takes; a field of an unknown encoding takes none. -/
def width (f : Field) : Nat := f.size.toOption.getD 0

/-- The encoding a field names; the loader keeps only fields of a known encoding. -/
def encoding (f : Field) : Encoding := (Encoding.ofName? f.encode).getD .uint8

/-- Whether the divisor has a double: an integer divisor must not be past the largest double. -/
def divisorFits (f : Field) : Bool :=
  match f.divisor with
  | .int n => Decimal.fitsDouble n
  | _ => true

/-- The divisor as a double, when it has one. -/
def divisorDouble (f : Field) : Float := f.divisor.toFloat.toOption.getD 1.0

/-- What a field reads from its bytes: the primitive's value, kept when the divisor equals one
and the encoding is an integer one, and otherwise divided by the divisor as a double. -/
def value (f : Field) (bs : List UInt8) : Reading :=
  if f.divisor.looseEq (.int 1) && f.encoding.isInteger then f.encoding.read bs
  else scale (f.encoding.read bs) f.divisorDouble

theorem fitsDouble_one : Decimal.fitsDouble 1 = true := by decide

/-- A field of a known encoding with a nonzero divisor reads bytes of its encoding's size to its
value, unless its divisor is an integer with no double. -/
theorem decode_eq {f : Field} {e : Encoding} (he : Encoding.ofName? f.encode = some e)
    (hd : Catalog.isDivisor f.divisor = true) {bs : List UInt8} (hl : bs.length = e.size) :
    f.decode bs = if f.divisorFits then .ok (f.value bs) else .error .floatOverflow := by
  have hnamed : Encoding.named f.encode = .ok e := by simp [Encoding.named, he]
  have henc : f.encoding = e := by simp [encoding, he]
  simp only [decode, decodeNamed, hnamed, hl, value, henc, divisorFits, divisorDouble, bind,
    Except.bind, pure, Except.pure, if_true, throw, throwThe, MonadExceptOf.throw]
  cases hdiv : f.divisor with
  | int n =>
    have hn : n ≠ 0 := by simpa [hdiv, Catalog.isDivisor] using hd
    have hloose : (Datum.int n).looseEq (.int 1) = (n == 1) := by
      simp [Datum.looseEq, Datum.intValue?]
    rw [hloose]
    by_cases h1 : n = 1 ∧ e.isInteger = true
    · obtain ⟨rfl, hi⟩ := h1
      simp [hi, fitsDouble_one]
    · have h1' : (n == 1 && e.isInteger) = false := by
        simpa using h1
      cases hf : Decimal.fitsDouble n <;>
        simp [h1', Datum.toFloat, hf, Decimal.ofInt_beq_zero hn, Except.toOption]
  | float x =>
    have hx : (x == 0.0) = false := by
      simp only [hdiv, Catalog.isDivisor, bne, Bool.not_eq_true'] at hd
      exact hd
    cases hloose : ((Datum.float x).looseEq (.int 1) && e.isInteger) <;>
      simp [Datum.toFloat, hx, Except.toOption]
  | _ => simp [hdiv, Catalog.isDivisor] at hd

end Field

/-- The bytes of field `i` of a layout: the slice at the total width of the fields before it. -/
def Field.slice (fields : List Field) (data : List UInt8) (i : Nat) (f : Field) : List UInt8 :=
  (data.drop ((fields.take i).map Field.width).sum).take f.width

/-- The slices of a layout's fields partition data of the layout's width. -/
theorem Field.flatten_slices (fields : List Field) {data : List UInt8}
    (hlen : data.length = (fields.map Field.width).sum) :
    (fields.mapIdx (Field.slice fields data)).flatten = data := by
  -- the slices from any offset on make up the bytes the fields take from there
  have hfrom : ∀ offset, (fields.mapIdx fun i f =>
      (data.drop (offset + ((fields.take i).map Field.width).sum)).take f.width).flatten =
      (data.drop offset).take (fields.map Field.width).sum := by
    clear hlen
    induction fields with
    | nil => simp
    | cons f rest ih =>
      intro offset
      simp only [List.mapIdx_cons, List.flatten_cons, List.take_zero, List.map_nil,
        List.sum_nil, Nat.add_zero, List.take_succ_cons, List.map_cons, List.sum_cons,
        ← Nat.add_assoc, ih (offset + f.width), List.take_add, List.drop_drop]
  have := hfrom 0
  simp only [Nat.zero_add, List.drop_zero, ← hlen, List.take_length] at this
  exact this

/-- The entries of the record a layout reads: the fields in order, each under its key and read
from its own slice. -/
def TypeSpec.entries (s : TypeSpec) (data : List UInt8) : List (String × Reading) :=
  s.fields.mapIdx fun i f => (f.key, f.value (Field.slice s.fields data i f))

/-- What a type reads from data of its width: one unnamed field reads as its value, any other
layout as the record of its fields. -/
def TypeSpec.reading (s : TypeSpec) (data : List UInt8) : Reading :=
  match s.fields with
  | [f] => if f.name.isNone then f.value data else .record (s.entries data)
  | _ => .record (s.entries data)

/-- Reading fields of known encodings and nonzero divisors under new, distinct keys, from data
that holds all their bytes from `offset` on: the record gains each field's value, read from the
slice at its running offset, unless a divisor has no double. -/
theorem decodeFields_eq (data : List UInt8) (fields : List Field) (offset : Nat)
    (acc : KeyedMap Reading) (hknown : ∀ f ∈ fields, (Encoding.ofName? f.encode).isSome)
    (hdiv : ∀ f ∈ fields, Catalog.isDivisor f.divisor = true)
    (hkeys : (acc.keys ++ fields.map Field.key).Nodup)
    (hlen : offset + (fields.map Field.width).sum ≤ data.length) :
    decodeFields data fields offset acc =
      if fields.all Field.divisorFits then
        .ok ⟨acc.entries ++ fields.mapIdx fun i f =>
          (f.key, f.value ((data.drop (offset + ((fields.take i).map Field.width).sum)).take
            f.width))⟩
      else .error .floatOverflow := by
  induction fields generalizing offset acc with
  | nil => simp [decodeFields]
  | cons f rest ih =>
    obtain ⟨e, he⟩ := Option.isSome_iff_exists.mp (hknown f List.mem_cons_self)
    have hsize := Field.size_of_ofName? he
    have hwidth : f.width = e.size := by simp [Field.width, hsize, Except.toOption]
    simp only [List.map_cons, List.sum_cons, hwidth] at hlen
    have hslice : ((data.drop offset).take e.size).length = e.size := by
      simp
      omega
    have hnew : f.key ∉ acc.keys := by
      intro hk
      exact (List.nodup_append.mp hkeys).2.2 _ hk _ (by simp) rfl
    simp only [decodeFields, hsize, bind, Except.bind,
      Field.decode_eq he (hdiv f List.mem_cons_self) hslice]
    cases hfit : f.divisorFits
    · simp [hfit]
    · simp only [if_true, KeyedMap.insert_of_not_mem _ hnew]
      rw [ih (offset + e.size) _ (fun g hg => hknown g (List.mem_cons_of_mem _ hg))
        (fun g hg => hdiv g (List.mem_cons_of_mem _ hg)) (by simpa [KeyedMap.keys] using hkeys)
        (by omega)]
      simp [hfit, List.mapIdx_cons, hwidth, Nat.add_assoc]

namespace TypeSpec

theorem byteWidth_eq (s : TypeSpec) : s.byteWidth = (s.fields.map Field.width).sum := by
  unfold byteWidth
  generalize s.fields = fields
  induction fields with
  | nil => rfl
  | cons f rest ih => simp [ih, Field.width]

/-- In a layout of several fields, every field has a name, and that name is its key. -/
theorem WellFormed.name_eq_key {s : TypeSpec} (hwf : s.WellFormed) (hlen : 1 < s.fields.length)
    {f : Field} (hf : f ∈ s.fields) : f.name = some f.key := by
  obtain ⟨n, hn⟩ := Option.isSome_iff_exists.mp (hwf.named hlen f hf)
  simp [Field.key, hn]

/-- The fields of a well-formed type have distinct keys. -/
theorem WellFormed.keys_nodup {s : TypeSpec} (hwf : s.WellFormed) :
    (s.fields.map Field.key).Nodup := by
  by_cases hlen : 1 < s.fields.length
  · -- several fields: every key is the field's name, and names are not repeated
    have hkey : s.fields.map Field.key =
        (s.fields.map Field.name).map (fun n => n.getD "None") := by
      simp [List.map_map, Function.comp_def, Field.key]
    rw [hkey]
    refine hwf.names_nodup.map_on ?_
    intro a ha b hb hab
    obtain ⟨f, hf, rfl⟩ := List.mem_map.mp ha
    obtain ⟨g, hg, rfl⟩ := List.mem_map.mp hb
    rw [hwf.name_eq_key hlen hf, hwf.name_eq_key hlen hg] at hab ⊢
    simpa using hab
  · -- one field
    obtain ⟨f, rest, hfs⟩ := List.exists_cons_of_ne_nil hwf.fields_ne_nil
    have : rest = [] := by
      rw [hfs] at hlen
      simpa using hlen
    simp [hfs, this]

/-- A record layout of a well-formed type reads data of the type's width to its entries, unless a
divisor has no double. -/
theorem record_eq {s : TypeSpec} (hwf : s.WellFormed) {data : List UInt8}
    (hlen : data.length = s.byteWidth) :
    decodeLayout.record s.fields data =
      if s.fields.all Field.divisorFits then .ok (.record (s.entries data))
      else .error .floatOverflow := by
  unfold decodeLayout.record
  rw [decodeFields_eq data s.fields 0 KeyedMap.empty hwf.encode_known hwf.divisor_nonzero
    (by simpa using hwf.keys_nodup) (by rw [byteWidth_eq] at hlen; omega)]
  split <;> simp [Except.map, KeyedMap.empty, entries, Field.slice]

/-- A layout that is not a single field reads as the record of its fields. -/
theorem reading_of_ne {s : TypeSpec} (hne : ∀ f, s.fields ≠ [f]) (data : List UInt8) :
    s.reading data = .record (s.entries data) := by
  unfold reading
  split
  · next f hfs => exact absurd hfs (hne f)
  · rfl

/-- What a type the loader accepts reads from data of its width: the reading its layout
documents, unless a divisor is an integer past the largest double, which fails the reading with
`floatOverflow`. Nothing else fails: the encodings are known, every slice has its encoding's
size, and no divisor is zero as a double. -/
theorem decode_of_wellFormed {s : TypeSpec} (hwf : s.WellFormed) {data : List UInt8}
    (hlen : data.length = s.byteWidth) :
    s.decode data =
      if s.fields.all Field.divisorFits then .ok (s.reading data) else .error .floatOverflow := by
  have hrec := record_eq hwf hlen
  unfold decode decodeLayout
  split
  · next f hfs =>
    simp only [reading, hfs] at hrec ⊢
    split
    · -- one unnamed field reads the whole data
      next hnone =>
      obtain ⟨e, he⟩ := Option.isSome_iff_exists.mp (hwf.encode_known f (by simp [hfs]))
      have hwidth : data.length = e.size := by
        simp [hlen, byteWidth_eq, hfs, Field.width, Field.size_of_ofName? he, Except.toOption]
      rw [Field.decode_eq he (hwf.divisor_nonzero f (by simp [hfs])) hwidth]
      simp
    · rw [hrec]
  · next hne =>
    rw [hrec, reading_of_ne hne]

theorem decode_of_wellFormed_record :
    (⟨240, "A", [⟨some "t", "int16", .int 10⟩, ⟨some "h", "uint8", .int 1⟩]⟩ : TypeSpec).WellFormed ∧
    ([0, 0xE1, 0x37] : List UInt8).length =
      (⟨240, "A", [⟨some "t", "int16", .int 10⟩, ⟨some "h", "uint8", .int 1⟩]⟩ : TypeSpec).byteWidth ∧
    (⟨240, "A", [⟨some "t", "int16", .int 10⟩, ⟨some "h", "uint8", .int 1⟩]⟩ : TypeSpec).decode
        [0, 0xE1, 0x37] =
      if [(⟨some "t", "int16", .int 10⟩ : Field), ⟨some "h", "uint8", .int 1⟩].all Field.divisorFits
      then .ok ((⟨240, "A", [⟨some "t", "int16", .int 10⟩, ⟨some "h", "uint8", .int 1⟩]⟩ :
        TypeSpec).reading [0, 0xE1, 0x37])
      else .error .floatOverflow := by
  have hwf : (⟨240, "A", [⟨some "t", "int16", .int 10⟩, ⟨some "h", "uint8", .int 1⟩]⟩ :
      TypeSpec).WellFormed := by decide
  have hlen : ([0, 0xE1, 0x37] : List UInt8).length =
      (⟨240, "A", [⟨some "t", "int16", .int 10⟩, ⟨some "h", "uint8", .int 1⟩]⟩ :
        TypeSpec).byteWidth := by decide
  exact ⟨hwf, hlen, decode_of_wellFormed hwf hlen⟩

end TypeSpec

end LowPowerPayload
