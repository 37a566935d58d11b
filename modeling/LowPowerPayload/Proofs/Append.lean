import LowPowerPayload.Proofs.Frames
/-!
# Decoding a payload followed by another

A payload that decodes ends on a frame boundary, so decoding it followed by more bytes reads its
frames first and then reads the more bytes as a payload of their own: the result is the first
payload's map updated with the second's, and a failure of the second is reported as it is, its
offsets counted from the start of the whole.

`scanFrom_shift` is the frame loop's half of this: reading from a later place changes nothing
but the offsets the failure carries. `decode_append` puts it together with
`scanFrom_frames_append` and `KeyedMap.ofList_append`.
-/

namespace LowPowerPayload

/-- The error with every offset it carries moved `n` bytes on. -/
def DecodeError.shift (n : Nat) : DecodeError → DecodeError
  | .unknownType typeId offset => .unknownType typeId (offset.map (· + n))
  | .insufficient name typeId offset needed available =>
    .insufficient name typeId (offset + n) needed available
  | .trailing offset count => .trailing (offset + n) count
  | .endless offset => .endless (offset + n)
  | e => e

/-- The failure with every offset it carries moved `n` bytes on; a fault carries none. -/
def DecodeFailure.shift (n : Nat) : DecodeFailure → DecodeFailure
  | .payload e => .payload (e.shift n)
  | .fault f => .fault f

/-- A rule's failure carries no offset: the unknown type of a standard descriptor without a
fixed rule is reported without one. -/
theorem Descriptor.shift_of_apply_error {d : Descriptor} {data : List UInt8} {e : DecodeFailure}
    (h : d.apply data = .error e) (n : Nat) : e.shift n = e := by
  -- none of the failures a rule gives carries an offset
  rcases Descriptor.apply_error h with rfl | rfl | ⟨f, rfl⟩ | ⟨f, rfl⟩ <;> rfl

namespace Registry

variable {r : Registry}

/-- On a registry without negative widths, reading bytes from a place `n` bytes later reads the
same frames and fails the same way, with the failure's offsets `n` bytes on. The payload the
reading belongs to matters only to negative widths, so it may differ too. -/
theorem scanFrom_shift (hw : r.WidthsNonneg) (payload payload' : List UInt8) (pos n : Nat)
    (bs : List UInt8) :
    (r.scanFrom payload (pos + n) bs).failure =
        (r.scanFrom payload' pos bs).failure.map (DecodeFailure.shift n) ∧
      (r.scanFrom payload (pos + n) bs).frames.map Frame.entry =
        (r.scanFrom payload' pos bs).frames.map Frame.entry := by
  fun_induction r.scanFrom payload' pos bs with
  | case1 pos => simp [scanFrom.eq_1]
  | case2 pos c =>
    simp [scanFrom.eq_2, Scan.stop, DecodeFailure.shift, DecodeError.shift]
  | case3 pos c t more hd =>
    simp only [scanFrom.eq_3, hd, Scan.stop, Option.map_some, DecodeFailure.shift,
      DecodeError.shift, List.map_nil, and_true, Option.some.injEq, DecodeFailure.payload.injEq,
      DecodeError.unknownType.injEq, true_and]
    push_cast; omega
  | case4 pos c t more d hd hnn w hshort =>
    simp only [scanFrom.eq_3, hd, hnn, if_true, w, hshort, Scan.stop, Option.map_some,
      DecodeFailure.shift, DecodeError.shift, List.map_nil, and_true, Option.some.injEq,
      DecodeFailure.payload.injEq, DecodeError.insufficient.injEq, true_and]
    push_cast; omega
  | case5 pos c t more d hd hnn w hlong e he =>
    simp [scanFrom.eq_3, hd, hnn, w, hlong, he, Scan.stop, Descriptor.shift_of_apply_error he]
  | case6 pos c t more d hd hnn w hlong v hv ih =>
    -- the next frame starts `n` bytes on as well
    have hpos : pos + n + 2 + d.width.toNat = pos + 2 + d.width.toNat + n := by omega
    obtain ⟨hfail, hentries⟩ := ih
    simp only [w] at hfail hentries hlong hv ⊢
    simp only [scanFrom.eq_3, hd, hnn, if_true, hlong, if_false, hv, Scan.cons]
    rw [hpos]
    exact ⟨hfail, by simp [hentries, Frame.entry]⟩
  | case7 pos c t more d hd hneg => exact absurd (width_nonneg_of_find? hw hd) hneg

/-- On a registry without negative widths, a payload that decodes followed by more bytes
decodes as the more bytes do on their own: to the first payload's map updated with theirs, or
to their failure with its offsets counted from the start of the whole. -/
theorem decode_append (hw : r.WidthsNonneg) {a : List UInt8} {ma : KeyedMap Reading}
    (ha : r.decode a = .ok ma) {b : List UInt8} (hb : b ≠ []) :
    r.decode (a ++ b) =
      ((r.decode b).map ma.update).mapError (DecodeFailure.shift a.length) := by
  obtain ⟨-, hfail, rfl⟩ := (decode_eq_ok_iff_scan a ma).mp ha
  obtain ⟨fs, hfs, hentries⟩ := frames_of_scanFrom hw hfail
  -- the run over `a ++ b` reads `a`'s frames, then `b` from the end of `a`
  obtain ⟨hfail', hentries'⟩ := scanFrom_frames_append hfs (a ++ b) 0 b
  obtain ⟨hshift, hsame⟩ := scanFrom_shift hw (a ++ b) b 0 a.length b
  rw [decode_of_ne_nil (by simp [hb]), decode_of_ne_nil hb]
  simp only [Scan.result, hfail', hshift]
  cases hb' : (r.scanFrom b 0 b).failure with
  | none =>
    simp only [Option.map_none, Except.map, Except.mapError, Scan.payload_eq, hentries',
      hsame, hentries, KeyedMap.ofList_append]
  | some e => simp [Except.map, Except.mapError]

/-- A digital input frame followed by a temperature frame decodes as the temperature frame on
its own, updating the digital input's map. -/
theorem standard_decode_append :
    standard.WidthsNonneg ∧
    standard.decode [1, 0, 5] = .ok (KeyedMap.ofList [("Digital Input_1", Reading.int 5)]) ∧
    ([2, 0x67, 0x01, 0x10] : List UInt8) ≠ [] ∧
    standard.decode ([1, 0, 5] ++ [2, 0x67, 0x01, 0x10]) =
      ((standard.decode [2, 0x67, 0x01, 0x10]).map
        (KeyedMap.ofList [("Digital Input_1", Reading.int 5)]).update).mapError
        (DecodeFailure.shift ([1, 0, 5] : List UInt8).length) := by
  have hw : standard.WidthsNonneg := by decide
  have hfind : standard.find? 0 = some ⟨0, "Digital Input", 1, true, .missing⟩ := rfl
  have hrule : StandardRule.ofId? 0 = some .byte := rfl
  have hrun : StandardRule.byte.run [5] = .ok (.int 5) := rfl
  have ha : standard.decode [1, 0, 5] =
      .ok (KeyedMap.ofList [("Digital Input_1", Reading.int 5)]) := by
    rw [decode_of_ne_nil (by simp)]
    simp [scanFrom.eq_3, scanFrom.eq_1, hfind, hrule, hrun, Descriptor.apply, Except.mapError,
      Scan.result, Scan.payload_eq, Scan.cons, Frame.entry, Descriptor.outputKey]
    rfl
  exact ⟨hw, ha, by simp, decode_append hw ha (by simp)⟩

end Registry

end LowPowerPayload
