import LowPowerPayload.Proofs.Termination
/-!
# What decoding logs

Decoding reports, in order, one event for each frame it decodes, and then at most one event for
the failure that stopped it; every one of them is a debug event. A frame is reported only once
its rule has read its data, with the index of its first data byte as its offset.

A failure is reported only when the frame loop finds it by a check of its own: an empty payload,
a type id without descriptor, data running past the end, or a byte left over. Its event names the
code of the error raised. A failure raised while a descriptor's rule runs (a standard id without
a fixed rule, a custom type without a rule or whose rule fails, a fault of a standard rule), and
a cursor that has left the payload, raise without an event: decoding then reports its decoded
frames and nothing more (`decode_log`).
-/

namespace LowPowerPayload

/-- The event that reports a decoded frame. -/
def Frame.record (f : Frame) : Event := .frameDecoded f.channel f.typeId f.width f.offset

/-- The failures the frame loop finds by a check of its own: an empty payload, a type id without
descriptor, data running past the end, and a byte left over. -/
def DecodeFailure.Checked : DecodeFailure → Prop
  | .payload .empty | .payload (.unknownType _ (some _)) | .payload (.insufficient ..)
  | .payload (.trailing ..) => True
  | _ => False

/-- The events of a scan: its frames' records, then its failure's event if it has one. -/
theorem Scan.events_eq (s : Scan) :
    s.events = s.frames.map Frame.record ++ (s.failure.bind DecodeFailure.event?).toList := by
  unfold Scan.events
  cases s.failure.bind DecodeFailure.event? <;> rfl

namespace DecodeFailure

/-- A failure the loop checks for is reported by one debug event whose message names the code
of the error raised. -/
theorem event?_of_checked {e : DecodeFailure} (h : e.Checked) :
    ∃ e' ev s, e = .payload e' ∧ e.event? = some ev ∧ ev.level = .debug ∧
      ev.message? = some ("DECODE_FAILED code=" ++ e'.report.code ++ s) := by
  rcases e with (_ | ⟨t, _ | o⟩ | ⟨name, -, -, needed, available⟩ | ⟨-, count⟩ | _ | _ | _) | _
  · exact ⟨.empty, .emptyFailed, "", rfl, rfl, rfl, by simp [Event.message?, DecodeError.report]⟩
  · exact absurd h id
  · refine ⟨_, _, " type_id=0x" ++ Text.hexTag t.toNat ++ " offset=" ++ toString o,
      rfl, rfl, rfl, ?_⟩
    simp [Event.message?, DecodeError.report, ← String.append_assoc]
  · refine ⟨_, _, " type=" ++ name ++ " need=" ++ toString needed ++ " have=" ++ toString available,
      rfl, rfl, rfl, ?_⟩
    simp [Event.message?, DecodeError.report, ← String.append_assoc]
  · refine ⟨_, _, " trailing=" ++ toString count, rfl, rfl, rfl, ?_⟩
    simp [Event.message?, DecodeError.report, ← String.append_assoc]
  all_goals exact absurd h id

/-- A failure the loop does not check for is raised without an event. -/
theorem event?_of_not_checked {e : DecodeFailure} (h : ¬ e.Checked) : e.event? = none := by
  rcases e with (_ | ⟨_, _ | _⟩ | _ | _ | _ | _ | _) | _
  all_goals first | rfl | exact absurd trivial h

end DecodeFailure

/-- A failure a descriptor's rule raises is none the loop checks for. -/
theorem Descriptor.not_checked_of_apply_error {d : Descriptor} {data : List UInt8}
    {e : DecodeFailure} (h : d.apply data = .error e) : ¬ e.Checked := by
  rcases Descriptor.apply_error h with rfl | rfl | ⟨f, rfl⟩ | ⟨f, rfl⟩ <;> exact id

/-- Every event of a scan is a debug event. -/
theorem Scan.level_of_mem_events (s : Scan) : ∀ ev ∈ s.events, ev.level = .debug := by
  intro ev hev
  rw [Scan.events_eq, List.mem_append, List.mem_map] at hev
  rcases hev with ⟨f, -, rfl⟩ | hfail
  · rfl
  · cases hf : s.failure with
    | none => simp [hf] at hfail
    | some e =>
      simp only [hf, Option.bind_some, Option.mem_toList] at hfail
      by_cases hc : e.Checked
      · obtain ⟨e', ev', s', -, hev', hlevel, -⟩ := DecodeFailure.event?_of_checked hc
        rw [hev', Option.some.injEq] at hfail
        rw [← hfail, hlevel]
      · rw [DecodeFailure.event?_of_not_checked hc] at hfail
        cases hfail

namespace Registry

variable {r : Registry} {bs : List UInt8} {q : Int} {e : DecodeFailure}

/-- Where the loop stops, the failure is one it checks for, or else one a descriptor's rule
raises, or a cursor that has left the payload. -/
theorem StopsAt.checked_or (h : r.StopsAt bs q e) :
    e.Checked ∨ ¬ e.Checked ∧
      ((∃ t d data, r.find? t = some d ∧ d.apply data = .error e) ∨
        e = .fault .indexOutOfRange) := by
  cases h with
  | empty => exact .inl trivial
  | trailing => exact .inl trivial
  | unknown => exact .inl trivial
  | short => exact .inl trivial
  | rule _ _ hd _ he =>
    exact .inr ⟨Descriptor.not_checked_of_apply_error he, .inl ⟨_, _, _, hd, he⟩⟩
  | outside => exact .inr ⟨id, .inr rfl⟩

end Registry

open Registry in
/-- What decoding logs, on every registry and every payload on which the loop ends. The events
are the records of the decoded frames, in the order the loop read them from the payload, and are
all debug events. A payload that decodes is read to its end and logs nothing more. A payload
that fails stops where the loop raises the failure. If the loop found the failure by a check of
its own, one more event follows, which names the code of the error raised; if a descriptor's rule
raised it, or the cursor left the payload, nothing follows. -/
theorem decode_log (r : Registry) (bs : List UInt8) (hend : (r.scan bs).Ends) :
    ∃ (fs : List Frame) (q : Int), Frame.Chain 0 fs q ∧ (∀ f ∈ fs, f.LiesIn r bs) ∧
      (∀ ev ∈ (Decoder.decode ⟨r⟩ bs).1, ev.level = .debug) ∧
      (∀ M, (Decoder.decode ⟨r⟩ bs).2 = .ok M →
        q = bs.length ∧ (Decoder.decode ⟨r⟩ bs).1 = fs.map Frame.record) ∧
      ∀ e, (Decoder.decode ⟨r⟩ bs).2 = .error e → r.StopsAt bs q e ∧
        ((e.Checked ∧ ∃ e' ev s, e = .payload e' ∧
            (Decoder.decode ⟨r⟩ bs).1 = fs.map Frame.record ++ [ev] ∧
            ev.message? = some ("DECODE_FAILED code=" ++ e'.report.code ++ s)) ∨
          (¬ e.Checked ∧ ((∃ t d data, r.find? t = some d ∧ d.apply data = .error e) ∨
              e = .fault .indexOutOfRange) ∧
            (Decoder.decode ⟨r⟩ bs).1 = fs.map Frame.record)) := by
  obtain ⟨q, -, hchain, hlies, hdone, hstop⟩ := (scan_reads r bs).stopsAt hend
  have hlog : (Decoder.decode ⟨r⟩ bs).1 =
      (r.scan bs).frames.map Frame.record ++
        ((r.scan bs).failure.bind DecodeFailure.event?).toList :=
    Scan.events_eq _
  refine ⟨(r.scan bs).frames, q, hchain, hlies, Scan.level_of_mem_events _, fun M hM => ?_,
    fun e he => ?_⟩
  · -- a payload that decodes has no failure
    have hnone : (r.scan bs).failure = none := by
      cases hf : (r.scan bs).failure with
      | none => rfl
      | some e => simp [Decoder.decode, Scan.result, hf] at hM
    exact ⟨hdone hnone, by simp [hlog, hnone]⟩
  · have hsome : (r.scan bs).failure = some e := (decode_eq_error_iff bs e).mp he
    have hs := hstop e hsome
    rw [hlog, hsome, Option.bind_some]
    refine ⟨hs, ?_⟩
    rcases hs.checked_or with hc | ⟨hnc, hwhy⟩
    · obtain ⟨e', ev, s, rfl, hev, -, hmsg⟩ := DecodeFailure.event?_of_checked hc
      exact .inl ⟨hc, e', ev, s, rfl, by simp [hev], hmsg⟩
    · exact .inr ⟨hnc, hwhy, by simp [DecodeFailure.event?_of_not_checked hnc]⟩

/-- A temperature frame cut short after one data byte: the loop ends, and decoding logs the
failure it finds. -/
theorem decode_log_short_frame :
    (Registry.standard.scan [1, 0x67, 0x01]).Ends ∧
    ∃ (fs : List Frame) (q : Int), Frame.Chain 0 fs q ∧
      (∀ f ∈ fs, f.LiesIn Registry.standard [1, 0x67, 0x01]) ∧
      (∀ ev ∈ (Decoder.decode ⟨Registry.standard⟩ [1, 0x67, 0x01]).1, ev.level = .debug) ∧
      (∀ M, (Decoder.decode ⟨Registry.standard⟩ [1, 0x67, 0x01]).2 = .ok M →
        q = ([1, 0x67, 0x01] : List UInt8).length ∧
          (Decoder.decode ⟨Registry.standard⟩ [1, 0x67, 0x01]).1 = fs.map Frame.record) ∧
      ∀ e, (Decoder.decode ⟨Registry.standard⟩ [1, 0x67, 0x01]).2 = .error e →
        Registry.standard.StopsAt [1, 0x67, 0x01] q e ∧
        ((e.Checked ∧ ∃ e' ev s, e = .payload e' ∧
            (Decoder.decode ⟨Registry.standard⟩ [1, 0x67, 0x01]).1 = fs.map Frame.record ++ [ev] ∧
            ev.message? = some ("DECODE_FAILED code=" ++ e'.report.code ++ s)) ∨
          (¬ e.Checked ∧ ((∃ t d data, Registry.standard.find? t = some d ∧
              d.apply data = .error e) ∨ e = .fault .indexOutOfRange) ∧
            (Decoder.decode ⟨Registry.standard⟩ [1, 0x67, 0x01]).1 = fs.map Frame.record)) := by
  have hend := Registry.scan_ends (by decide : Registry.standard.WidthsNonneg) [1, 0x67, 0x01]
  exact ⟨hend, decode_log _ _ hend⟩

end LowPowerPayload
