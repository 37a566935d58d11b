import LowPowerPayload.Proofs.Frames
/-!
# The frame loop, turn by turn

The frame loop keeps a cursor into the payload. At each turn it reads the two header bytes at the
cursor, finds the descriptor of the header's type id, checks that the data fits in the payload,
applies the descriptor's rule to the data, and moves the cursor to the end of the data. It stops
at the end of the payload or at the first check that fails. This module states that loop on its
own terms, for every registry, negative widths included:

* `Frame.Chain`: the decoded frames follow one another along the cursor;
* `Frame.LiesIn`: each decoded frame is read from the payload where the cursor stood;
* `Registry.StopsAt`: the ways the loop fails at a cursor;
* `Registry.Reads`: the three together, from a starting cursor.

`scan_reads` says that every scan is such a reading. So the frames a scan reports are the turns
of the loop that succeeded, in order. The scan then stops where the loop stops, with the failure
the loop raises there, or because the loop goes round for ever.
-/

namespace LowPowerPayload

/-! ### Bytes by index -/

/-- An index finds no byte exactly when it lies outside the payload on either side; a negative
index counts from the end. -/
theorem byteAt?_eq_none_iff (bs : List UInt8) (i : Int) :
    byteAt? bs i = none ↔ i < -(bs.length : Int) ∨ (bs.length : Int) ≤ i := by
  unfold byteAt?
  split_ifs <;> simp <;> omega

/-- The first two bytes of the payload from `pos` on are the bytes at `pos` and `pos + 1`. -/
theorem byteAt?_of_drop_eq {bs rest : List UInt8} {pos : Nat} {c t : UInt8}
    (h : bs.drop pos = c :: t :: rest) :
    byteAt? bs pos = some c ∧ byteAt? bs ((pos : Int) + 1) = some t := by
  have h0 : bs[pos + 0]? = some c := by rw [← List.getElem?_drop, h]; rfl
  have h1 : bs[pos + 1]? = some t := by rw [← List.getElem?_drop, h]; rfl
  refine ⟨by rw [byteAt?_natCast]; simpa using h0, ?_⟩
  rw [← h1, ← byteAt?_natCast]
  push_cast
  rfl

/-- A header at `pos` and what follows it are the whole payload from `pos` on. -/
theorem length_of_drop_eq {bs rest : List UInt8} {pos : Nat} {c t : UInt8}
    (h : bs.drop pos = c :: t :: rest) : bs.length = pos + 2 + rest.length := by
  have := congrArg List.length h
  simp only [List.length_drop, List.length_cons] at this
  omega

/-- The data after a header at `pos`, of a width that fits, is the start of what follows the
header. -/
theorem between_of_drop_eq {bs rest : List UInt8} {pos : Nat} {c t : UInt8} {w : Int}
    (h : bs.drop pos = c :: t :: rest) (hw : 0 ≤ w) (hfit : w.toNat ≤ rest.length) :
    between bs ((pos : Int) + 2) ((pos : Int) + 2 + w) = rest.take w.toNat := by
  have hlen := length_of_drop_eq h
  have hrest : bs.drop (pos + 2) = rest := by
    rw [← List.drop_drop, h]
    rfl
  have hcast := between_natCast bs (pos + 2) (pos + 2 + w.toNat) (by omega)
  rw [show ((pos + 2 + w.toNat : Nat) : Int) = (pos : Int) + 2 + w by omega] at hcast
  push_cast at hcast
  rw [hcast, hrest, show pos + 2 + w.toNat - (pos + 2) = w.toNat by omega]

/-! ### The loop as a relation -/

/-- The frames follow one another along a cursor that moves from `pos` to `stop`: each frame's
data starts after the two header bytes at the cursor, and the cursor moves on to the end of the
frame's data. -/
def Frame.Chain : Int → List Frame → Int → Prop
  | pos, [], stop => pos = stop
  | pos, f :: fs, stop => f.offset = pos + 2 ∧ Chain (f.offset + f.width) fs stop

@[simp] theorem Frame.chain_nil {pos stop : Int} : Frame.Chain pos [] stop ↔ pos = stop :=
  Iff.rfl

@[simp] theorem Frame.chain_cons {pos stop : Int} {f : Frame} {fs : List Frame} :
    Frame.Chain pos (f :: fs) stop ↔
      f.offset = pos + 2 ∧ Frame.Chain (f.offset + f.width) fs stop :=
  Iff.rfl

/-- A decoded frame lies in the payload as the loop read it: its channel and type id are the two
bytes before its offset, its data ends within the payload, and the registry finds a descriptor
for the type id, of the frame's width, whose name and rule give the frame's key and reading. -/
def Frame.LiesIn (f : Frame) (r : Registry) (bs : List UInt8) : Prop :=
  (byteAt? bs (f.offset - 2)).map UInt8.toNat = some f.channel ∧
    (byteAt? bs (f.offset - 1)).map UInt8.toNat = some f.typeId ∧
    f.offset + f.width ≤ bs.length ∧
    ∃ d, r.find? f.typeId = some d ∧ d.width = f.width ∧ f.key = d.outputKey f.channel ∧
      d.apply (between bs f.offset (f.offset + f.width)) = .ok f.reading

/-- The frame the loop reads at a header whose bytes are found at the cursor. -/
theorem Frame.liesIn_of_header {r : Registry} {bs : List UInt8} {pos : Int} {c t : UInt8}
    {d : Descriptor} {v : Reading} (hc : byteAt? bs pos = some c)
    (ht : byteAt? bs (pos + 1) = some t) (hd : r.find? t.toNat = some d)
    (hfit : pos + 2 + d.width ≤ bs.length)
    (hv : d.apply (between bs (pos + 2) (pos + 2 + d.width)) = .ok v) :
    Frame.LiesIn ⟨c.toNat, t.toNat, d.width, pos + 2, d.outputKey c.toNat, v⟩ r bs := by
  have h2 : pos + 2 - 2 = pos := by omega
  have h1 : pos + 2 - 1 = pos + 1 := by omega
  refine ⟨?_, ?_, hfit, d, hd, rfl, rfl, hv⟩
  · rw [h2, hc]
    rfl
  · rw [h1, ht]
    rfl

namespace Registry

/-- How the frame loop fails with the cursor at `q`. The first four are the checks the loop makes
itself; a failing rule and a cursor outside the payload raise without a check. -/
inductive StopsAt (r : Registry) (bs : List UInt8) (q : Int) : DecodeFailure → Prop
  /-- The payload is empty, so there is no frame at all. -/
  | empty : bs = [] → StopsAt r bs q (.payload .empty)
  /-- One byte is left, too few for a header. -/
  | trailing : q + 1 = bs.length → StopsAt r bs q (.payload (.trailing q.toNat 1))
  /-- The header's type id has no descriptor. -/
  | unknown {t : UInt8} : -(bs.length : Int) ≤ q → byteAt? bs (q + 1) = some t →
      r.find? t.toNat = none → StopsAt r bs q (.payload (.unknownType t.toNat (some (q + 1))))
  /-- The data of the header's type runs past the end of the payload. -/
  | short {t : UInt8} {d : Descriptor} : -(bs.length : Int) ≤ q → byteAt? bs (q + 1) = some t →
      r.find? t.toNat = some d → (bs.length : Int) < q + 2 + d.width →
      StopsAt r bs q
        (.payload (.insufficient d.name t.toNat (q + 2) d.width (bs.length - (q + 2)).toNat))
  /-- The descriptor's rule fails on the data. -/
  | rule {t : UInt8} {d : Descriptor} {e : DecodeFailure} : -(bs.length : Int) ≤ q →
      byteAt? bs (q + 1) = some t → r.find? t.toNat = some d → q + 2 + d.width ≤ bs.length →
      d.apply (between bs (q + 2) (q + 2 + d.width)) = .error e → StopsAt r bs q e
  /-- The cursor lies further before the end than the payload is long. -/
  | outside : q < -(bs.length : Int) → StopsAt r bs q (.fault .indexOutOfRange)

/-- `s` is what the frame loop reads from the cursor `pos` on. Its frames follow one another from
`pos` to a cursor `q` within the payload, each lying in the payload as the loop read it. The loop
then ends at `q`: at the end of the payload when nothing failed, else with the failure it raises
there, or by going round for ever. -/
def Reads (r : Registry) (bs : List UInt8) (pos : Int) (s : Scan) : Prop :=
  ∃ q : Int, q ≤ bs.length ∧ Frame.Chain pos s.frames q ∧ (∀ f ∈ s.frames, f.LiesIn r bs) ∧
    (s.failure = none → q = bs.length) ∧
    ∀ e, s.failure = some e → r.StopsAt bs q e ∨ e = .payload (.endless q)

end Registry

/-- The scan ended: it did not stop for going round for ever. -/
def Scan.Ends (s : Scan) : Prop := ∀ o, s.failure ≠ some (.payload (.endless o))

namespace Registry

variable {r : Registry} {bs : List UInt8}

/-- A reading that ended stops with a failure only where the loop raises it. -/
theorem Reads.stopsAt {pos : Int} {s : Scan} (h : r.Reads bs pos s) (hend : s.Ends) :
    ∃ q : Int, q ≤ bs.length ∧ Frame.Chain pos s.frames q ∧ (∀ f ∈ s.frames, f.LiesIn r bs) ∧
      (s.failure = none → q = bs.length) ∧ ∀ e, s.failure = some e → r.StopsAt bs q e := by
  obtain ⟨q, hq, hchain, hlies, hdone, hfail⟩ := h
  refine ⟨q, hq, hchain, hlies, hdone, fun e he => ?_⟩
  rcases hfail e he with hstop | rfl
  · exact hstop
  · exact absurd he (hend q)

theorem Reads.done : r.Reads bs bs.length ⟨[], none⟩ :=
  ⟨bs.length, le_rfl, rfl, by simp, fun _ => rfl, by simp⟩

theorem Reads.stop {pos : Int} {e : DecodeFailure} (hpos : pos ≤ bs.length)
    (h : r.StopsAt bs pos e) : r.Reads bs pos (.stop e) :=
  ⟨pos, hpos, rfl, by simp [Scan.stop], by simp [Scan.stop], fun e' he' => by
    cases he'
    exact .inl h⟩

theorem Reads.endless {pos : Int} (hpos : pos ≤ bs.length) :
    r.Reads bs pos (.stop (.payload (.endless pos))) :=
  ⟨pos, hpos, rfl, by simp [Scan.stop], by simp [Scan.stop], fun e he => by
    cases he
    exact .inr rfl⟩

/-- A frame read at the cursor, followed by what the loop reads from the end of its data. -/
theorem Reads.cons {pos : Int} {f : Frame} {s : Scan} (h : r.Reads bs (f.offset + f.width) s)
    (hoff : f.offset = pos + 2) (hf : f.LiesIn r bs) : r.Reads bs pos (s.cons f) := by
  obtain ⟨q, hq, hchain, hlies, hdone, hfail⟩ := h
  refine ⟨q, hq, ⟨hoff, hchain⟩, ?_, hdone, hfail⟩
  simpa [Scan.cons] using ⟨hf, hlies⟩

/-- Reading by index, from a cursor within the payload. -/
theorem wander_reads (payload : List UInt8) (fuel : Nat) (pos : Int)
    (hpos : pos ≤ payload.length) : r.Reads payload pos (r.wander payload fuel pos) := by
  induction fuel generalizing pos with
  | zero => exact Reads.endless hpos
  | succ fuel ih =>
    simp only [wander]
    split
    · next hend =>
      split
      · next hat =>
        subst hat
        exact Reads.done
      · next hat =>
        -- the cursor is not past the end, so exactly one byte is left
        have hone : (payload.length - pos : Int).toNat = 1 := by omega
        rw [hone]
        exact Reads.stop hpos (.trailing (by omega))
    · next hroom =>
      split
      · next c t hc ht =>
        have hin : -(payload.length : Int) ≤ pos := by
          by_contra hlt
          have := (byteAt?_eq_none_iff payload pos).mpr (.inl (by omega))
          simp [hc] at this
        cases hd : r.find? t.toNat with
        | none => exact Reads.stop hpos (.unknown hin ht hd)
        | some d =>
          dsimp only
          split
          · next hshort => exact Reads.stop hpos (.short hin ht hd hshort)
          · next hfit =>
            split
            · next e he => exact Reads.stop hpos (.rule hin ht hd (by omega) he)
            · next v hv =>
              exact Reads.cons (ih (pos + 2 + d.width) (by omega)) rfl
                (Frame.liesIn_of_header hc ht hd (by omega) hv)
      · next hmiss =>
        -- a header byte is missing although the header fits before the end: the cursor lies
        -- before the start
        have hout : pos < -(payload.length : Int) := by
          cases hc : byteAt? payload pos with
          | none => rcases (byteAt?_eq_none_iff payload pos).mp hc with h | h <;> omega
          | some c =>
            cases ht : byteAt? payload (pos + 1) with
            | none => rcases (byteAt?_eq_none_iff payload (pos + 1)).mp ht with h | h <;> omega
            | some t => exact absurd ht (hmiss c t hc)
        exact Reads.stop hpos (.outside hout)

/-- Reading the payload as a list from `pos`, where `bs` is what is left of the payload. -/
theorem scanFrom_reads (payload : List UInt8) (pos : Nat) (bs : List UInt8) :
    payload.drop pos = bs → pos ≤ payload.length →
      r.Reads payload pos (r.scanFrom payload pos bs) := by
  fun_induction r.scanFrom payload pos bs with
  | case1 pos =>
    intro hdrop hpos
    -- nothing is left, so the cursor stands at the end
    have hend : pos = payload.length := by
      have := List.drop_eq_nil_iff.mp hdrop
      omega
    subst hend
    exact Reads.done
  | case2 pos c =>
    intro hdrop hpos
    have hlen : (pos : Int) + 1 = payload.length := by
      have := congrArg List.length hdrop
      simp only [List.length_drop, List.length_singleton] at this
      omega
    have h := StopsAt.trailing (r := r) hlen
    rw [Int.toNat_natCast] at h
    exact Reads.stop (by omega) h
  | case3 pos c t more hd =>
    intro hdrop hpos
    exact Reads.stop (by omega) (.unknown (by omega) (byteAt?_of_drop_eq hdrop).2 hd)
  | case4 pos c t more d hd hnn w hshort =>
    intro hdrop hpos
    have hlen := length_of_drop_eq hdrop
    have h := StopsAt.short (r := r) (q := pos) (by omega) (byteAt?_of_drop_eq hdrop).2 hd
      (by omega)
    have havail : ((payload.length : Int) - (pos + 2)).toNat = more.length := by omega
    rw [havail] at h
    exact Reads.stop (by omega) h
  | case5 pos c t more d hd hnn w hlong e he =>
    intro hdrop hpos
    have hlen := length_of_drop_eq hdrop
    have hdata := between_of_drop_eq hdrop hnn (Nat.le_of_not_lt hlong)
    exact Reads.stop (by omega)
      (.rule (by omega) (byteAt?_of_drop_eq hdrop).2 hd (by omega) (by rw [hdata]; exact he))
  | case6 pos c t more d hd hnn w hlong v hv ih =>
    intro hdrop hpos
    have hlen := length_of_drop_eq hdrop
    have hdata := between_of_drop_eq hdrop hnn (Nat.le_of_not_lt hlong)
    -- what is left after the frame is the payload from the end of its data on
    have hrest : payload.drop (pos + 2 + w) = more.drop w := by
      rw [← List.drop_drop, ← List.drop_drop, hdrop]
      rfl
    have hnext := ih hrest (by omega)
    have hcur : ((pos + 2 + w : Nat) : Int) = (pos : Int) + 2 + d.width := by push_cast; omega
    rw [hcur] at hnext
    have hc := byteAt?_of_drop_eq hdrop
    exact Reads.cons hnext rfl
      (Frame.liesIn_of_header hc.1 hc.2 hd (by omega) (by rw [hdata]; exact hv))
  | case7 pos c t more d hd hneg =>
    intro hdrop hpos
    exact wander_reads payload _ pos (by omega)

/-- Every scan of a payload is what the frame loop reads from the payload's first byte. -/
theorem scan_reads (r : Registry) (bs : List UInt8) : r.Reads bs 0 (r.scan bs) := by
  unfold scan
  split
  · next hempty =>
    obtain rfl := List.isEmpty_iff.mp hempty
    exact Reads.stop (by simp) (.empty rfl)
  · simpa using scanFrom_reads (r := r) bs 0 bs rfl (Nat.zero_le _)

end Registry

end LowPowerPayload
