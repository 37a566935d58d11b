import LowPowerPayload.Proofs.Frames
/-!
# Where a payload stops

On a registry without negative widths the cursor of the frame loop only moves from one frame
boundary to the next, and never past the end of the payload. So a reading that fails stops at a
frame boundary: the bytes before it are the frames decoded so far, and the failure is raised at
the first frame of the rest (`scanFrom_failure_at`). `scanFrom_eq_stop` says what failing there
at once can be.

Together they fix the details of every failure the loop raises itself: a single byte left over
is reported as one trailing byte at the last index; data running past the end is reported two
bytes after its frame's start, with fewer bytes available than the width needs; and an unknown
id is reported at its own index, right after the frames decoded before it
(`decode_failure_details`).
-/

namespace LowPowerPayload

/-- The number of bytes a decoded frame takes: its two header bytes and its data. -/
def Frame.size (f : Frame) : Int := 2 + f.width

/-- The number of bytes the decoded frames of a scan take. -/
def Scan.consumed (s : Scan) : Int := (s.frames.map Frame.size).sum

namespace Registry

variable {r : Registry}

/-- Failing at once, before any frame is decoded, is one of four things: a single byte left, an
id with no descriptor, data running past the end, or the descriptor's rule failing on the
data. -/
theorem scanFrom_eq_stop (hw : r.WidthsNonneg) {payload : List UInt8} {pos : Nat}
    {bs : List UInt8} {e : DecodeFailure} (h : r.scanFrom payload pos bs = .stop e) :
    (∃ x, bs = [x] ∧ e = .payload (.trailing pos 1)) ∨
    (∃ c b more, bs = c :: b :: more ∧ r.find? b.toNat = none ∧
      e = .payload (.unknownType b.toNat (some (pos + 1)))) ∨
    (∃ c b more d, bs = c :: b :: more ∧ r.find? b.toNat = some d ∧ (more.length : Int) < d.width ∧
      e = .payload (.insufficient d.name b.toNat (pos + 2) d.width more.length)) ∨
    (∃ c b more d, bs = c :: b :: more ∧ r.find? b.toNat = some d ∧ d.width ≤ more.length ∧
      d.apply (more.take d.width.toNat) = .error e) := by
  match bs, h with
  | [], h => simp [scanFrom.eq_1, Scan.stop] at h
  | [x], h =>
    simp only [scanFrom.eq_2, Scan.stop, Scan.mk.injEq, Option.some.injEq, true_and] at h
    exact .inl ⟨x, rfl, h.symm⟩
  | c :: b :: more, h =>
    rw [scanFrom.eq_3] at h
    cases hd : r.find? b.toNat with
    | none =>
      simp only [hd, Scan.stop, Scan.mk.injEq, Option.some.injEq, true_and] at h
      exact .inr (.inl ⟨c, b, more, rfl, hd, h.symm⟩)
    | some d =>
      have hnn := width_nonneg_of_find? hw hd
      simp only [hd, hnn, if_true] at h
      split at h
      · next hshort =>
        simp only [Scan.stop, Scan.mk.injEq, Option.some.injEq, true_and] at h
        exact .inr (.inr (.inl ⟨c, b, more, d, rfl, hd, by omega, h.symm⟩))
      · next hfits =>
        split at h
        · next e' he =>
          simp only [Scan.stop, Scan.mk.injEq, Option.some.injEq, true_and] at h
          exact .inr (.inr (.inr ⟨c, b, more, d, rfl, hd, by omega, h ▸ he⟩))
        · -- a frame was decoded, so the scan did not stop at once
          simp [Scan.cons, Scan.stop] at h

/-- A reading that fails stops at a frame boundary: the first `n` bytes are the frames it
decoded, and reading the rest from there fails at once with the same failure. -/
theorem scanFrom_failure_at (hw : r.WidthsNonneg) {payload : List UInt8} {pos : Nat}
    {bs : List UInt8} {e : DecodeFailure} (h : (r.scanFrom payload pos bs).failure = some e) :
    ∃ n : Nat, (n : Int) = (r.scanFrom payload pos bs).consumed ∧ n ≤ bs.length ∧
      r.scanFrom payload (pos + n) (bs.drop n) = .stop e := by
  fun_induction r.scanFrom payload pos bs with
  | case1 pos => simp at h
  | case2 pos c =>
    simp only [Scan.stop, Option.some.injEq] at h
    exact ⟨0, by simp [Scan.consumed, Scan.stop], by simp, by simp [scanFrom.eq_2, h]⟩
  | case3 pos c t more hd =>
    simp only [Scan.stop, Option.some.injEq] at h
    exact ⟨0, by simp [Scan.consumed, Scan.stop], by simp, by simp [scanFrom.eq_3, hd, h]⟩
  | case4 pos c t more d hd hnn w hshort =>
    simp only [Scan.stop, Option.some.injEq] at h
    exact ⟨0, by simp [Scan.consumed, Scan.stop], by simp,
      by simp [scanFrom.eq_3, hd, hnn, w, hshort, h]⟩
  | case5 pos c t more d hd hnn w hlong e' he =>
    simp only [Scan.stop, Option.some.injEq] at h
    exact ⟨0, by simp [Scan.consumed, Scan.stop], by simp,
      by simp [scanFrom.eq_3, hd, hnn, w, hlong, he, h]⟩
  | case6 pos c t more d hd hnn w hlong v hv ih =>
    -- the frame just read takes `2 + w` bytes; the rest fails `n` bytes after it
    obtain ⟨n, hn, hle, hstop⟩ := ih h
    have hw' : (w : Int) = d.width := by simp only [w]; omega
    have hwle : w ≤ more.length := by omega
    refine ⟨2 + w + n, ?_, ?_, ?_⟩
    · simp only [Scan.consumed, Scan.cons, List.map_cons, List.sum_cons, Frame.size] at hn ⊢
      push_cast
      omega
    · simp only [List.length_cons, List.length_drop] at hle ⊢
      omega
    · have hpos : pos + (2 + w + n) = pos + 2 + w + n := by omega
      have hdrop : (c :: t :: more).drop (2 + w + n) = (more.drop w).drop n := by
        rw [List.drop_drop, show 2 + w + n = w + n + 1 + 1 by omega]
        rfl
      rw [hpos, hdrop]
      exact hstop
  | case7 pos c t more d hd hneg => exact absurd (width_nonneg_of_find? hw hd) hneg

/-- Decoding fails exactly with the failure its scan stops with. -/
theorem decode_eq_error_iff (bs : List UInt8) (e : DecodeFailure) :
    r.decode bs = .error e ↔ (r.scan bs).failure = some e := by
  simp only [decode, Scan.result]
  cases (r.scan bs).failure <;> simp

/-- A payload that fails on a frame fails at the frame boundary `n` that its decoded frames
reach, on the frame that starts there. -/
theorem decode_failure_at (hw : r.WidthsNonneg) {bs : List UInt8} {e : DecodeError}
    (h : r.decode bs = .error (.payload e)) (hne : e ≠ .empty) :
    ∃ n : Nat, (n : Int) = (r.scan bs).consumed ∧ n ≤ bs.length ∧
      r.scanFrom bs n (bs.drop n) = .stop (.payload e) := by
  rw [decode_eq_error_iff] at h
  cases bs with
  | nil => simp [scan, Scan.stop] at h; exact absurd h.symm hne
  | cons b rest =>
    simp only [scan, List.isEmpty_cons, Bool.false_eq_true, if_false] at h ⊢
    simpa using scanFrom_failure_at hw h

/-- A fault that passes through decoding is raised by the rule of a descriptor the payload
names, on data as wide as the descriptor. -/
theorem decode_fault (hw : r.WidthsNonneg) {bs : List UInt8} {f : Fault}
    (h : r.decode bs = .error (.fault f)) :
    ∃ t d data, r.find? t = some d ∧ (data.length : Int) = d.width ∧
      d.apply data = .error (.fault f) := by
  rw [decode_eq_error_iff] at h
  cases bs with
  | nil => simp [scan, Scan.stop] at h
  | cons b rest =>
    simp only [scan, List.isEmpty_cons, Bool.false_eq_true, if_false] at h
    obtain ⟨n, -, -, hstop⟩ := scanFrom_failure_at hw h
    rcases scanFrom_eq_stop hw hstop with ⟨x, -, he⟩ | ⟨c, t, more, -, -, he⟩ |
        ⟨c, t, more, d, -, -, -, he⟩ | ⟨c, t, more, d, -, hd, hfits, happ⟩
    · cases he
    · cases he
    · cases he
    · have hnn := width_nonneg_of_find? hw hd
      exact ⟨t.toNat, d, more.take d.width.toNat, hd, by simp; omega, happ⟩

/-- A rule's failure as a payload error is one of the rule's own: it never carries an offset. -/
private theorem apply_error_payload {d : Descriptor} {data : List UInt8} {e : DecodeError}
    (h : d.apply data = .error (.payload e)) :
    e = .unknownType d.typeId none ∨ e = .noRule d.name d.typeId ∨
      ∃ f, e = .ruleFailed d.name d.typeId f := by
  rcases Descriptor.apply_error h with h | h | ⟨f, h⟩ | ⟨f, h⟩
  · exact .inl (DecodeFailure.payload.inj h)
  · exact .inr (.inl (DecodeFailure.payload.inj h))
  · exact .inr (.inr ⟨f, DecodeFailure.payload.inj h⟩)
  · cases h

variable {bs : List UInt8}

/-- Bytes left over are a single byte at the last index, right after the decoded frames. -/
theorem decode_trailing (hw : r.WidthsNonneg) {o k : Nat}
    (h : r.decode bs = .error (.payload (.trailing o k))) :
    k = 1 ∧ o + 1 = bs.length ∧ (o : Int) = (r.scan bs).consumed := by
  obtain ⟨n, hn, -, hstop⟩ := decode_failure_at hw h (by simp)
  rcases scanFrom_eq_stop hw hstop with ⟨x, hx, he⟩ | ⟨c, b, more, hx, -, he⟩ |
      ⟨c, b, more, d, hx, -, -, he⟩ | ⟨c, b, more, d, hx, -, -, happ⟩
  · simp only [DecodeFailure.payload.injEq, DecodeError.trailing.injEq] at he
    obtain ⟨rfl, rfl⟩ := he
    have hlen := congrArg List.length hx
    simp only [List.length_drop, List.length_singleton] at hlen
    exact ⟨rfl, by omega, hn⟩
  · cases he
  · cases he
  · rcases apply_error_payload happ with he | he | ⟨f, he⟩ <;> cases he

/-- Data running past the end is reported two bytes after its frame's start, with the bytes from
there to the end, fewer than the width of the descriptor of the frame's id. -/
theorem decode_insufficient (hw : r.WidthsNonneg) {name : String} {t : Nat} {p needed : Int}
    {available : Nat} (h : r.decode bs = .error (.payload (.insufficient name t p needed available))) :
    p = (r.scan bs).consumed + 2 ∧ 2 ≤ p ∧ p ≤ bs.length ∧
      (available : Int) = bs.length - p ∧ (available : Int) < needed ∧
      ∃ d, r.find? t = some d ∧ d.name = name ∧ d.width = needed := by
  obtain ⟨n, hn, -, hstop⟩ := decode_failure_at hw h (by simp)
  rcases scanFrom_eq_stop hw hstop with ⟨x, hx, he⟩ | ⟨c, b, more, hx, -, he⟩ |
      ⟨c, b, more, d, hx, hd, hshort, he⟩ | ⟨c, b, more, d, hx, -, -, happ⟩
  · cases he
  · cases he
  · simp only [DecodeFailure.payload.injEq, DecodeError.insufficient.injEq] at he
    obtain ⟨rfl, rfl, rfl, rfl, rfl⟩ := he
    have hlen := congrArg List.length hx
    simp only [List.length_drop, List.length_cons] at hlen
    exact ⟨by omega, by omega, by omega, by omega, hshort, d, hd, rfl, rfl⟩
  · rcases apply_error_payload happ with he | he | ⟨f, he⟩ <;> cases he

/-- An id with no descriptor is reported at its own index, inside the payload, right after the
decoded frames. -/
theorem decode_unknownType (hw : r.WidthsNonneg) {t o : Int}
    (h : r.decode bs = .error (.payload (.unknownType t (some o)))) :
    r.find? t = none ∧ 1 ≤ o ∧ o < bs.length ∧ (∃ b, bs[o.toNat]? = some b ∧ (b.toNat : Int) = t) ∧
      o - 1 = (r.scan bs).consumed := by
  obtain ⟨n, hn, -, hstop⟩ := decode_failure_at hw h (by simp)
  rcases scanFrom_eq_stop hw hstop with ⟨x, hx, he⟩ | ⟨c, b, more, hx, hd, he⟩ |
      ⟨c, b, more, d, hx, -, -, he⟩ | ⟨c, b, more, d, hx, -, -, happ⟩
  · cases he
  · simp only [DecodeFailure.payload.injEq, DecodeError.unknownType.injEq,
      Option.some.injEq] at he
    obtain ⟨rfl, rfl⟩ := he
    have hlen := congrArg List.length hx
    simp only [List.length_drop, List.length_cons] at hlen
    -- the id is the second byte from the boundary
    have hb : bs[n + 1]? = some b := by
      rw [← List.getElem?_drop, hx]
      rfl
    refine ⟨hd, by omega, by omega, ⟨b, ?_, rfl⟩, by omega⟩
    simpa using hb
  · cases he
  · rcases apply_error_payload happ with he | he | ⟨f, he⟩
    · simp only [DecodeError.unknownType.injEq, reduceCtorEq, and_false] at he
    · cases he
    · cases he

/-- On a registry without negative widths, the failures the frame loop raises itself agree with
the frame structure. Bytes left over are a single byte, at the last index. Data running past the
end is reported at the index two bytes after its frame's start, which lies within the payload,
with the bytes from there to the end, fewer than the descriptor of the frame's id needs. An id
with no descriptor is reported at its own index, inside the payload, right after the frames
decoded before it. -/
theorem decode_failure_details (hw : r.WidthsNonneg) (bs : List UInt8) :
    (∀ o k, r.decode bs = .error (.payload (.trailing o k)) →
      k = 1 ∧ o + 1 = bs.length ∧ (o : Int) = (r.scan bs).consumed) ∧
    (∀ name t p needed available,
      r.decode bs = .error (.payload (.insufficient name t p needed available)) →
      p = (r.scan bs).consumed + 2 ∧ 2 ≤ p ∧ p ≤ bs.length ∧
        (available : Int) = bs.length - p ∧ (available : Int) < needed ∧
        ∃ d, r.find? t = some d ∧ d.name = name ∧ d.width = needed) ∧
    (∀ t o, r.decode bs = .error (.payload (.unknownType t (some o))) →
      r.find? t = none ∧ 1 ≤ o ∧ o < bs.length ∧ (∃ b, bs[o.toNat]? = some b ∧ (b.toNat : Int) = t) ∧
        o - 1 = (r.scan bs).consumed) :=
  ⟨fun _ _ => decode_trailing hw, fun _ _ _ _ _ => decode_insufficient hw,
    fun _ _ => decode_unknownType hw⟩

/-- The standard registry has no negative width, so the failures of a temperature frame cut
short agree with its frame structure. -/
theorem standard_decode_failure_details :
    standard.WidthsNonneg ∧
    (∀ o k, standard.decode [1, 0x67, 0x01] = .error (.payload (.trailing o k)) →
      k = 1 ∧ o + 1 = ([1, 0x67, 0x01] : List UInt8).length ∧
        (o : Int) = (standard.scan [1, 0x67, 0x01]).consumed) ∧
    (∀ name t p needed available,
      standard.decode [1, 0x67, 0x01] = .error (.payload (.insufficient name t p needed available)) →
      p = (standard.scan [1, 0x67, 0x01]).consumed + 2 ∧ 2 ≤ p ∧
        p ≤ ([1, 0x67, 0x01] : List UInt8).length ∧
        (available : Int) = ([1, 0x67, 0x01] : List UInt8).length - p ∧ (available : Int) < needed ∧
        ∃ d, standard.find? t = some d ∧ d.name = name ∧ d.width = needed) ∧
    (∀ t o, standard.decode [1, 0x67, 0x01] = .error (.payload (.unknownType t (some o))) →
      standard.find? t = none ∧ 1 ≤ o ∧ o < ([1, 0x67, 0x01] : List UInt8).length ∧
        (∃ b, ([1, 0x67, 0x01] : List UInt8)[o.toNat]? = some b ∧ (b.toNat : Int) = t) ∧
        o - 1 = (standard.scan [1, 0x67, 0x01]).consumed) := by
  have hw : standard.WidthsNonneg := by decide
  exact ⟨hw, decode_failure_details hw [1, 0x67, 0x01]⟩

end Registry

end LowPowerPayload
