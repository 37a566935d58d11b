import LowPowerPayload.Frame
import LowPowerPayload.Proofs.KeyedMap
/-!
# Payloads as runs of whole frames

A payload that decodes is a run of whole frames `[channel][type id][data]`, one after the
other, in which every type id finds a descriptor, every frame's data is exactly as wide as its
descriptor says, and every descriptor's rule reads its data. `Registry.Frames` states this split
on its own, without the cursor of the frame loop; the decoded payload is the map built from the
frames' keys and readings in frame order.

The main result, `decode_eq_ok_iff_frames`, says that on a registry without negative widths a
payload decodes exactly when it is not empty and has such a split, that the split is unique,
and that the keys of the decoded payload are listed once each and name their frames' type name
and channel.
-/

namespace LowPowerPayload

/-- A frame as it lies in a payload, with the descriptor its type id finds and the reading its
data decodes to. -/
structure Parsed where
  channel : UInt8
  typeId : UInt8
  data : List UInt8
  descriptor : Descriptor
  reading : Reading

namespace Parsed

/-- The bytes of the frame: channel, type id, data. -/
def bytes (f : Parsed) : List UInt8 := f.channel :: f.typeId :: f.data

/-- The output key of the frame. -/
def key (f : Parsed) : String := f.descriptor.outputKey f.channel.toNat

/-- The entry the frame adds to the decoded payload. -/
def entry (f : Parsed) : String × Reading := (f.key, f.reading)

/-- The frame agrees with the registry: its type id finds its descriptor, its data is exactly
as wide as the descriptor says, and the descriptor's rule reads the data as its reading. -/
def Fits (r : Registry) (f : Parsed) : Prop :=
  r.find? (f.typeId.toNat : Int) = some f.descriptor ∧
    (f.data.length : Int) = f.descriptor.width ∧ f.descriptor.apply f.data = .ok f.reading

end Parsed

/-- A descriptor's rule fails in one of four ways: a standard id without a fixed rule, a custom
type without a rule, a custom rule that fails, or a fault of a standard rule. None of them is
about where the frame lies. -/
theorem Descriptor.apply_error {d : Descriptor} {data : List UInt8} {e : DecodeFailure}
    (h : d.apply data = .error e) :
    e = .payload (.unknownType d.typeId none) ∨ e = .payload (.noRule d.name d.typeId) ∨
      (∃ f, e = .payload (.ruleFailed d.name d.typeId f)) ∨ ∃ f, e = .fault f := by
  unfold Descriptor.apply at h
  split at h
  · split at h
    · cases h
      exact .inl rfl
    · next rule _ =>
      cases hr : rule.run data <;> simp only [hr, Except.mapError, reduceCtorEq,
        Except.error.injEq] at h
      exact .inr (.inr (.inr ⟨_, h.symm⟩))
  · split at h
    · cases h
      exact .inr (.inl rfl)
    · cases h
      exact .inr (.inr (.inl ⟨_, rfl⟩))
    · next rule _ =>
      cases hr : rule.run data <;> simp only [hr, Except.mapError, reduceCtorEq,
        Except.error.injEq] at h
      exact .inr (.inr (.inl ⟨_, h.symm⟩))

/-- The entry a decoded frame adds to the decoded payload. -/
def Frame.entry (f : Frame) : String × Reading := (f.key, f.reading)

theorem Scan.payload_eq (s : Scan) : s.payload = KeyedMap.ofList (s.frames.map Frame.entry) := rfl

namespace Registry

/-- `fs` splits the payload into whole frames, one after the other, each agreeing with the
registry. -/
def Frames (r : Registry) (bs : List UInt8) (fs : List Parsed) : Prop :=
  bs = (fs.map Parsed.bytes).flatten ∧ ∀ f ∈ fs, f.Fits r

/-- No descriptor of the registry has a negative width. -/
def WidthsNonneg (r : Registry) : Prop := ∀ d ∈ r.descriptors, 0 ≤ d.width

instance : DecidablePred WidthsNonneg := fun r =>
  inferInstanceAs (Decidable (∀ d ∈ r.descriptors, 0 ≤ d.width))

variable {r : Registry}

theorem width_nonneg_of_find? (hw : r.WidthsNonneg) {t : Int} {d : Descriptor}
    (hd : r.find? t = some d) : 0 ≤ d.width :=
  hw d (List.mem_of_find?_eq_some hd)

@[simp] theorem frames_nil_iff {bs : List UInt8} : r.Frames bs [] ↔ bs = [] := by
  simp [Frames]

theorem frames_cons_iff {bs : List UInt8} {f : Parsed} {fs : List Parsed} :
    r.Frames bs (f :: fs) ↔ ∃ rest, bs = f.bytes ++ rest ∧ f.Fits r ∧ r.Frames rest fs := by
  simp only [Frames, List.map_cons, List.flatten_cons, List.forall_mem_cons]
  constructor
  · rintro ⟨rfl, hf, hfs⟩
    exact ⟨_, rfl, hf, rfl, hfs⟩
  · rintro ⟨rest, rfl, hf, rfl, hfs⟩
    exact ⟨rfl, hf, hfs⟩

/-! ### The frame loop on whole frames -/

/-- A whole frame that fits is read as it is, and reading goes on right after it. -/
theorem scanFrom_fits {f : Parsed} (hf : f.Fits r) (payload : List UInt8) (pos : Nat)
    (rest : List UInt8) :
    r.scanFrom payload pos (f.bytes ++ rest) =
      (r.scanFrom payload (pos + 2 + f.data.length) rest).cons
        ⟨f.channel.toNat, f.typeId.toNat, f.descriptor.width, pos + 2, f.key, f.reading⟩ := by
  obtain ⟨hd, hlen, hv⟩ := hf
  have hw : f.descriptor.width.toNat = f.data.length := by omega
  have hnn : 0 ≤ f.descriptor.width := by omega
  have hlong : ¬ (f.data ++ rest).length < f.data.length := by simp
  rw [Parsed.bytes, List.cons_append, List.cons_append, scanFrom.eq_3]
  simp only [hd, hnn, hw, hlong, hv, if_true, if_false, List.take_left', List.drop_left',
    Parsed.key]

/-- Reading a run of whole fitting frames followed by more bytes reads the frames, then goes on
from the end of the run as if the more bytes were read on their own from there. -/
theorem scanFrom_frames_append {a : List UInt8} {fs : List Parsed} (h : r.Frames a fs)
    (payload : List UInt8) (pos : Nat) (b : List UInt8) :
    (r.scanFrom payload pos (a ++ b)).failure =
        (r.scanFrom payload (pos + a.length) b).failure ∧
      (r.scanFrom payload pos (a ++ b)).frames.map Frame.entry =
        fs.map Parsed.entry ++ (r.scanFrom payload (pos + a.length) b).frames.map Frame.entry := by
  induction fs generalizing a pos with
  | nil =>
    obtain rfl := frames_nil_iff.mp h
    simp
  | cons f fs ih =>
    obtain ⟨rest, rfl, hf, hrest⟩ := frames_cons_iff.mp h
    have hpos : pos + 2 + f.data.length + rest.length = pos + (f.bytes ++ rest).length := by
      simp [Parsed.bytes]; omega
    obtain ⟨hfail, hentries⟩ := ih hrest (pos + 2 + f.data.length)
    rw [hpos] at hfail hentries
    rw [List.append_assoc, scanFrom_fits hf]
    exact ⟨hfail, by simp [Scan.cons, hentries, Frame.entry, Parsed.entry]⟩

/-- A run of whole fitting frames is read to its end without failure, into its frames'
entries. -/
theorem scanFrom_of_frames {bs : List UInt8} {fs : List Parsed} (h : r.Frames bs fs)
    (payload : List UInt8) (pos : Nat) :
    (r.scanFrom payload pos bs).failure = none ∧
      (r.scanFrom payload pos bs).frames.map Frame.entry = fs.map Parsed.entry := by
  have h' := scanFrom_frames_append h payload pos []
  simp only [List.append_nil, scanFrom.eq_1, List.map_nil] at h'
  exact h'

/-- On a registry without negative widths, a reading that ends without failure has read the
payload as a run of whole fitting frames. -/
theorem frames_of_scanFrom (hw : r.WidthsNonneg) {payload : List UInt8} {pos : Nat}
    {bs : List UInt8} (h : (r.scanFrom payload pos bs).failure = none) :
    ∃ fs, r.Frames bs fs ∧
      (r.scanFrom payload pos bs).frames.map Frame.entry = fs.map Parsed.entry := by
  fun_induction r.scanFrom payload pos bs with
  | case1 pos => exact ⟨[], by simp⟩
  | case2 pos c => simp [Scan.stop] at h
  | case3 pos c t more hd => simp [Scan.stop] at h
  | case4 pos c t more d hd hnn w hshort => simp [Scan.stop] at h
  | case5 pos c t more d hd hnn w hlong e he => simp [Scan.stop] at h
  | case6 pos c t more d hd hnn w hlong v hv ih =>
    obtain ⟨fs, hfs, hentries⟩ := ih h
    -- the frame just read has `w` data bytes, the width of its descriptor
    have hlen : ((more.take w).length : Int) = d.width := by
      simp only [List.length_take, w]; omega
    refine ⟨⟨c, t, more.take w, d, v⟩ :: fs, ?_, ?_⟩
    · refine frames_cons_iff.mpr ⟨more.drop w, ?_, ⟨hd, hlen, hv⟩, hfs⟩
      simp [Parsed.bytes]
    · simp [Scan.cons, hentries, Frame.entry, Parsed.entry, Parsed.key]
  | case7 pos c t more d hd hneg => exact absurd (width_nonneg_of_find? hw hd) hneg

/-! ### The split is unique, and keys name their frames -/

/-- A payload splits into whole fitting frames in at most one way. -/
theorem frames_unique {bs : List UInt8} {fs gs : List Parsed} (h : r.Frames bs fs)
    (h' : r.Frames bs gs) : fs = gs := by
  induction fs generalizing bs gs with
  | nil =>
    obtain rfl := frames_nil_iff.mp h
    cases gs with
    | nil => rfl
    | cons g gs =>
      obtain ⟨_, he, _⟩ := frames_cons_iff.mp h'
      simp [Parsed.bytes] at he
  | cons f fs ih =>
    obtain ⟨rest, rfl, ⟨hd, hlen, hv⟩, hrest⟩ := frames_cons_iff.mp h
    cases gs with
    | nil => simp [Parsed.bytes] at h'
    | cons g gs =>
      obtain ⟨rest', he, ⟨hd', hlen', hv'⟩, hrest'⟩ := frames_cons_iff.mp h'
      obtain ⟨hc, ht, hdata⟩ : f.channel = g.channel ∧ f.typeId = g.typeId ∧
          f.data ++ rest = g.data ++ rest' := by
        simpa [Parsed.bytes] using he
      -- the type id finds one descriptor, whose width fixes where the data ends
      have hdesc : f.descriptor = g.descriptor := by
        rw [ht, hd'] at hd
        exact (Option.some.inj hd).symm
      have hsplit := List.append_inj hdata (by rw [hdesc] at hlen; omega)
      have hread : f.reading = g.reading := by
        rw [hsplit.1, hdesc, hv'] at hv
        exact (Except.ok.inj hv).symm
      have hfg : f = g := by
        cases f; cases g
        simp_all
      rw [hfg, ih hrest (hsplit.2 ▸ hrest')]

/-- A list splits in at most one way around a separator that occurs in neither tail. -/
private theorem append_cons_inj_of_not_mem {α : Type} {x : α} {l₁ l₂ s₁ s₂ : List α}
    (h : l₁ ++ x :: s₁ = l₂ ++ x :: s₂) (h₁ : x ∉ s₁) (h₂ : x ∉ s₂) : l₁ = l₂ ∧ s₁ = s₂ := by
  induction l₁ generalizing l₂ with
  | nil =>
    cases l₂ with
    | nil => simpa using h
    | cons y l₂ =>
      obtain ⟨rfl, rfl⟩ := List.cons.inj h
      simp at h₁
  | cons a l₁ ih =>
    cases l₂ with
    | nil =>
      obtain ⟨rfl, rfl⟩ := List.cons.inj h
      simp at h₂
    | cons b l₂ =>
      obtain ⟨rfl, hrest⟩ := List.cons.inj h
      obtain ⟨rfl, rfl⟩ := ih hrest
      exact ⟨rfl, rfl⟩

/-- An output key names its type name and channel: the channel is the decimal digits after the
last underscore. -/
theorem outputKey_inj {d e : Descriptor} {c c' : Nat} (h : d.outputKey c = e.outputKey c') :
    d.name = e.name ∧ c = c' := by
  have hl := congrArg String.toList h
  simp only [Descriptor.outputKey, String.toList_append, Nat.toString_eq_repr,
    Nat.toList_repr] at hl
  -- a decimal numeral has no underscore
  have hdig : ∀ n : Nat, '_' ∉ Nat.toDigits 10 n := fun n hm => by
    have := Nat.isDigit_of_mem_toDigits (by decide) (by decide) hm
    simp at this
  have hsplit := append_cons_inj_of_not_mem (by simpa using hl) (hdig c) (hdig c')
  refine ⟨String.toList_injective hsplit.1, ?_⟩
  calc c = Nat.ofDigitChars 10 (Nat.toDigits 10 c) 0 := Nat.ofDigitChars_ten_toDigits.symm
    _ = c' := by rw [hsplit.2, Nat.ofDigitChars_ten_toDigits]

/-! ### Decoding -/

/-- A payload that is not empty is read from its first byte. -/
theorem decode_of_ne_nil {bs : List UInt8} (h : bs ≠ []) :
    r.decode bs = (r.scanFrom bs 0 bs).result := by
  simp [decode, scan, List.isEmpty_iff, h]

theorem decode_eq_ok_iff_scan (bs : List UInt8) (M : KeyedMap Reading) :
    r.decode bs = .ok M ↔
      bs ≠ [] ∧ (r.scanFrom bs 0 bs).failure = none ∧
        M = KeyedMap.ofList ((r.scanFrom bs 0 bs).frames.map Frame.entry) := by
  rcases bs with _ | ⟨b, bs⟩
  · simp [decode, scan, Scan.result, Scan.stop]
  · simp only [decode, scan, List.isEmpty_cons, Bool.false_eq_true, if_false, Scan.result,
      ne_eq, reduceCtorEq, not_false_eq_true, true_and, Scan.payload_eq]
    cases hf : (r.scanFrom (b :: bs) 0 (b :: bs)).failure with
    | none => simp [eq_comm]
    | some e => simp

/-- On a registry without negative widths, a payload decodes exactly when it is not empty and
splits into whole frames that each agree with the registry; the decoded payload is then the map
built from the frames' keys and readings in order. The split is unique, the decoded payload
lists each of the frames' keys once, and frames of one key share their type name and
channel. -/
theorem decode_eq_ok_iff_frames (hw : r.WidthsNonneg) (bs : List UInt8) (M : KeyedMap Reading) :
    (r.decode bs = .ok M ↔
      bs ≠ [] ∧ ∃ fs, r.Frames bs fs ∧ M = KeyedMap.ofList (fs.map Parsed.entry)) ∧
    (∀ fs gs, r.Frames bs fs → r.Frames bs gs → fs = gs) ∧
    (∀ fs, r.Frames bs fs → M = KeyedMap.ofList (fs.map Parsed.entry) →
      M.keys.Nodup ∧ (∀ k, k ∈ M.keys ↔ ∃ f ∈ fs, f.key = k) ∧
      ∀ f ∈ fs, ∀ g ∈ fs, f.key = g.key →
        f.descriptor.name = g.descriptor.name ∧ f.channel = g.channel) := by
  refine ⟨?_, fun _ _ => frames_unique, ?_⟩
  · rw [decode_eq_ok_iff_scan]
    constructor
    · rintro ⟨hne, hfail, rfl⟩
      obtain ⟨fs, hfs, hentries⟩ := frames_of_scanFrom hw hfail
      exact ⟨hne, fs, hfs, by rw [hentries]⟩
    · rintro ⟨hne, fs, hfs, rfl⟩
      obtain ⟨hfail, hentries⟩ := scanFrom_of_frames hfs bs 0
      exact ⟨hne, hfail, by rw [hentries]⟩
  · rintro fs - rfl
    refine ⟨KeyedMap.nodup_keys_ofList _, fun k => ?_, fun f _ g _ hk => ?_⟩
    · simp [KeyedMap.mem_keys_ofList, Parsed.entry]
    · have h := outputKey_inj hk
      exact ⟨h.1, UInt8.toNat_inj.mp h.2⟩

/-- The standard registry has no negative width, so its payloads decode exactly by their
frames. -/
theorem standard_decode_eq_ok_iff_frames :
    standard.WidthsNonneg ∧
    ((standard.decode [3, 0x67, 0x01, 0x10] =
        .ok (KeyedMap.ofList [("Temperature_3", Reading.real 27.2)]) ↔
      ([3, 0x67, 0x01, 0x10] : List UInt8) ≠ [] ∧ ∃ fs, standard.Frames [3, 0x67, 0x01, 0x10] fs ∧
        KeyedMap.ofList [("Temperature_3", Reading.real 27.2)] =
          KeyedMap.ofList (fs.map Parsed.entry)) ∧
    (∀ fs gs, standard.Frames [3, 0x67, 0x01, 0x10] fs →
      standard.Frames [3, 0x67, 0x01, 0x10] gs → fs = gs) ∧
    (∀ fs, standard.Frames [3, 0x67, 0x01, 0x10] fs →
      KeyedMap.ofList [("Temperature_3", Reading.real 27.2)] =
        KeyedMap.ofList (fs.map Parsed.entry) →
      (KeyedMap.ofList [("Temperature_3", Reading.real 27.2)]).keys.Nodup ∧
      (∀ k, k ∈ (KeyedMap.ofList [("Temperature_3", Reading.real 27.2)]).keys ↔
        ∃ f ∈ fs, f.key = k) ∧
      ∀ f ∈ fs, ∀ g ∈ fs, f.key = g.key →
        f.descriptor.name = g.descriptor.name ∧ f.channel = g.channel)) := by
  have h : standard.WidthsNonneg := by decide
  exact ⟨h, decode_eq_ok_iff_frames h [3, 0x67, 0x01, 0x10]
    (KeyedMap.ofList [("Temperature_3", Reading.real 27.2)])⟩

end Registry

end LowPowerPayload
