import LowPowerPayload.Proofs.Loop
import LowPowerPayload.Proofs.Faults
/-!
# The frame loop ends

Each turn of the frame loop that decodes a frame moves the cursor past the frame's two header
bytes and its data. When no width is negative that is at least two bytes forward, and the width
check keeps the cursor within the payload, so the loop decodes at most half as many frames as the
payload has bytes, and it never goes round for ever (`scan_advances`). The registries a caller
reaches have no negative width: the standard types are one to nine bytes wide, registration
refuses a width below one, and a build registers its catalog types through the same check.

A registry seeded with descriptors takes them as they are. A custom descriptor of width `-2`
whose rule reads the empty data sends the cursor back to the header it has just read, and from
there the loop reads that frame again and again (`wander_back`).
-/

namespace LowPowerPayload

namespace Registry

variable {r : Registry}

/-- A frame the loop reads on a registry without negative widths is not negative in width. -/
theorem width_nonneg_of_liesIn (hw : r.WidthsNonneg) {bs : List UInt8} {f : Frame}
    (h : f.LiesIn r bs) : 0 ≤ f.width := by
  obtain ⟨-, -, -, d, hd, hwidth, -⟩ := h
  rw [← hwidth]
  exact width_nonneg_of_find? hw hd

/-- Frames of widths not below zero move the cursor two bytes forward each at least. -/
theorem chain_advances {fs : List Frame} {pos q : Int} (h : Frame.Chain pos fs q)
    (hw : ∀ f ∈ fs, 0 ≤ f.width) : pos + 2 * fs.length ≤ q := by
  induction fs generalizing pos with
  | nil => simp only [Frame.chain_nil] at h; simp [h]
  | cons f fs ih =>
    obtain ⟨hoff, hrest⟩ := h
    have hf := hw f List.mem_cons_self
    have := ih hrest (fun g hg => hw g (List.mem_cons_of_mem f hg))
    simp only [List.length_cons]
    omega

/-- On a registry without negative widths the loop reads the payload as a list throughout, so
it never hands over to reading by index and never goes round for ever. -/
theorem scanFrom_ends (hw : r.WidthsNonneg) (payload : List UInt8) (pos : Nat) (bs : List UInt8) :
    (r.scanFrom payload pos bs).Ends := by
  fun_induction r.scanFrom payload pos bs with
  | case1 pos => simp [Scan.Ends]
  | case2 pos c => simp [Scan.Ends, Scan.stop]
  | case3 pos c t more hd => simp [Scan.Ends, Scan.stop]
  | case4 pos c t more d hd hnn w hshort => simp [Scan.Ends, Scan.stop]
  | case5 pos c t more d hd hnn w hlong e he =>
    -- the rule's own failures carry no cursor
    intro o hend
    simp only [Scan.stop, Option.some.injEq] at hend
    subst hend
    rcases Descriptor.apply_error he with h | h | ⟨f, h⟩ | ⟨f, h⟩ <;> cases h
  | case6 pos c t more d hd hnn w hlong v hv ih => exact ih
  | case7 pos c t more d hd hneg => exact absurd (width_nonneg_of_find? hw hd) hneg

theorem scan_ends (hw : r.WidthsNonneg) (bs : List UInt8) : (r.scan bs).Ends := by
  unfold scan
  split
  · simp [Scan.Ends, Scan.stop]
  · exact scanFrom_ends hw bs 0 bs

/-- On a registry without negative widths the loop ends on every payload. Its cursor starts at
zero and each decoded frame moves it two bytes and the frame's width forward, never past the end
of the payload; so it decodes at most half as many frames as the payload has bytes. -/
theorem scan_advances (hw : r.WidthsNonneg) (bs : List UInt8) :
    (r.scan bs).Ends ∧ ∃ q : Int, q ≤ bs.length ∧ Frame.Chain 0 (r.scan bs).frames q ∧
      (∀ f ∈ (r.scan bs).frames, 0 ≤ f.width ∧ f.offset + f.width ≤ bs.length) ∧
      2 * (r.scan bs).frames.length ≤ bs.length := by
  obtain ⟨q, hq, hchain, hlies, -, -⟩ := scan_reads r bs
  have hwidths : ∀ f ∈ (r.scan bs).frames, 0 ≤ f.width ∧ f.offset + f.width ≤ bs.length :=
    fun f hf => ⟨width_nonneg_of_liesIn hw (hlies f hf), (hlies f hf).2.2.1⟩
  have hcount := chain_advances hchain (fun f hf => (hwidths f hf).1)
  exact ⟨scan_ends hw bs, q, hq, hchain, hwidths, by omega⟩

/-! ### A width that sends the cursor back -/

/-- A header whose type has width `-2` and a rule that reads the empty data sends the cursor
back to the header itself. Reading by index from there decodes the same frame over and over
until the bound on the number of frames runs out. -/
theorem wander_back {payload : List UInt8} {pos : Nat} {c t : UInt8} {d : Descriptor}
    {v : Reading} (hc : byteAt? payload pos = some c)
    (ht : byteAt? payload ((pos : Int) + 1) = some t)
    (hroom : pos + 2 ≤ payload.length) (hd : r.find? t.toNat = some d) (hw : d.width = -2)
    (hv : d.apply [] = .ok v) (k : Nat) :
    r.wander payload k pos =
      ⟨List.replicate k ⟨c.toNat, t.toNat, -2, pos + 2, d.outputKey c.toNat, v⟩,
        some (.payload (.endless pos))⟩ := by
  -- the data runs from two bytes after the cursor back to the cursor, so it is empty
  have hdata : between payload ((pos : Int) + 2) ((pos : Int) + 2 + d.width) = [] := by
    rw [hw, show (pos : Int) + 2 + -2 = (pos : Int) by omega,
      show (pos : Int) + 2 = ((pos + 2 : Nat) : Int) by push_cast; rfl,
      between_natCast _ _ _ (by omega)]
    simp
  induction k with
  | zero => rfl
  | succ k ih =>
    have hroom' : ¬ ((payload.length : Int) < pos + 2) := by omega
    have hfit : ¬ ((payload.length : Int) < pos + 2 + d.width) := by omega
    have hback : (pos : Int) + 2 + d.width = pos := by omega
    rw [wander]
    simp only [hroom', if_false, hc, ht, hd]
    rw [if_neg hfit, hdata, hv]
    dsimp only
    rw [hback, ih, hw]
    rfl

/-- On a payload that starts with whole frames, a header whose type has width `-2` and a rule
that reads the empty data makes the loop go round for ever at that header. -/
theorem scan_back {pre rest : List UInt8} {fs : List Parsed} {c t : UInt8} {d : Descriptor}
    {v : Reading} (hpre : r.Frames pre fs) (hd : r.find? t.toNat = some d) (hw : d.width = -2)
    (hv : d.apply [] = .ok v) :
    (r.scan (pre ++ c :: t :: rest)).failure = some (.payload (.endless pre.length)) := by
  set bs := pre ++ c :: t :: rest
  have hdrop : bs.drop pre.length = c :: t :: rest := by simp [bs]
  have hlen := length_of_drop_eq hdrop
  have hbytes := byteAt?_of_drop_eq hdrop
  have hneg : ¬ (0 ≤ d.width) := by omega
  -- the frames before are read as they are, then the header hands over to reading by index
  have hfail := (scanFrom_frames_append hpre bs 0 (c :: t :: rest)).1
  rw [Nat.zero_add, scanFrom.eq_3] at hfail
  simp only [hd, hneg, if_false] at hfail
  rw [wander_back hbytes.1 hbytes.2 (by omega) hd hw hv] at hfail
  have hne : ¬ (bs.isEmpty = true) := by simp [bs]
  rw [scan, if_neg hne]
  exact hfail

end Registry

/-- A registration succeeds only with an integer width of at least one. -/
theorem Decoder.width_of_add {d d' : Decoder} {typeId name width : Datum} {slot : RuleSlot}
    {evs : List Event} (h : d.add typeId name width slot = .ok (true, d', evs)) :
    ∃ w : Int, width = .int w ∧ 1 ≤ w := by
  obtain ⟨⟨t, w, rule, -, -, -, -, hw, h1, -⟩, -⟩ :=
    (Decoder.exists_add_true_iff d typeId name width slot).mp ⟨d', evs, h⟩
  exact ⟨w, hw, h1⟩

/-- The frame loop ends on every payload of every registry without negative widths: each frame
it decodes moves its cursor two bytes and the frame's width forward, within the payload. That
covers the standard registry, whose widths are one to nine bytes, every registry that
registrations and removals reach from it, since a registration takes only widths of at least
one, and every decoder a build gives, with whatever calls follow. A registry seeded with a custom
type of width `-2` whose rule reads the empty data goes round for ever at a frame of that type. -/
theorem frame_loop_terminates :
    (∀ r : Registry, r.WidthsNonneg → ∀ bs : List UInt8, (r.scan bs).Ends ∧
      ∃ q : Int, q ≤ bs.length ∧ Frame.Chain 0 (r.scan bs).frames q ∧
        (∀ f ∈ (r.scan bs).frames, 0 ≤ f.width ∧ f.offset + f.width ≤ bs.length) ∧
        2 * (r.scan bs).frames.length ≤ bs.length) ∧
    (∀ d ∈ Registry.standard.descriptors, 1 ≤ d.width ∧ d.width ≤ 9) ∧
    (∀ (d d' : Decoder) typeId name width slot evs,
      d.add typeId name width slot = .ok (true, d', evs) → ∃ w : Int, width = .int w ∧ 1 ≤ w) ∧
    (∀ calls, (TypeCall.run Decoder.fresh calls).registry.WidthsNonneg) ∧
    (∀ config entry d calls, (build config entry).2 = .ok d →
      (TypeCall.run d calls).registry.WidthsNonneg) ∧
    ∀ (r : Registry) (pre : List UInt8) (fs : List Parsed) (c t : UInt8) (rest : List UInt8)
      (d : Descriptor) (v : Reading), r.Frames pre fs → r.find? t.toNat = some d →
      d.width = -2 → d.apply [] = .ok v →
      (r.scan (pre ++ c :: t :: rest)).failure = some (.payload (.endless pre.length)) := by
  refine ⟨fun r hw bs => Registry.scan_advances hw bs, by decide,
    fun d d' typeId name width slot evs h => Decoder.width_of_add h,
    fun calls => (TypeCall.run_sound _ calls Registry.sound_standard).widths,
    fun config entry d calls h => (TypeCall.run_sound d calls (build_ok_registry h).1).widths,
    fun r pre fs c t rest d v hpre hd hw hv => Registry.scan_back hpre hd hw hv⟩

/-- The standard registry has no negative width, so the loop ends on a temperature frame, having
moved its cursor past the frame; a decoder seeded with a custom type `0xF0` of width `-2` that
reads its data as hexadecimal text goes round for ever on the payload `01 F0`. -/
theorem standard_ends_seeded_back_endless :
    (Registry.standard.WidthsNonneg ∧ (Registry.standard.scan [1, 0x67, 0x01, 0x10]).Ends ∧
      ∃ q : Int, q ≤ ([1, 0x67, 0x01, 0x10] : List UInt8).length ∧
        Frame.Chain 0 (Registry.standard.scan [1, 0x67, 0x01, 0x10]).frames q ∧
        (∀ f ∈ (Registry.standard.scan [1, 0x67, 0x01, 0x10]).frames, 0 ≤ f.width ∧
          f.offset + f.width ≤ ([1, 0x67, 0x01, 0x10] : List UInt8).length) ∧
        2 * (Registry.standard.scan [1, 0x67, 0x01, 0x10]).frames.length ≤
          ([1, 0x67, 0x01, 0x10] : List UInt8).length) ∧
    (Decoder.seeded [⟨0xF0, "Loop", -2, false, .ready .hex⟩]).registry.Frames [] [] ∧
    (Decoder.seeded [⟨0xF0, "Loop", -2, false, .ready .hex⟩]).registry.find?
        (0xF0 : UInt8).toNat = some ⟨0xF0, "Loop", -2, false, .ready .hex⟩ ∧
    (⟨0xF0, "Loop", -2, false, .ready .hex⟩ : Descriptor).width = -2 ∧
    (⟨0xF0, "Loop", -2, false, .ready .hex⟩ : Descriptor).apply [] = .ok (.text "") ∧
    ((Decoder.seeded [⟨0xF0, "Loop", -2, false, .ready .hex⟩]).registry.scan
        ([] ++ [1, 0xF0])).failure = some (.payload (.endless ([] : List UInt8).length)) := by
  have hw : Registry.standard.WidthsNonneg := by decide
  exact ⟨⟨hw, frame_loop_terminates.1 _ hw [1, 0x67, 0x01, 0x10]⟩, by simp [Registry.Frames], rfl,
    rfl, rfl,
    frame_loop_terminates.2.2.2.2.2 _ [] [] 1 0xF0 [] _ _ (by simp [Registry.Frames]) rfl rfl rfl⟩

end LowPowerPayload
