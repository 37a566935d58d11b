import LowPowerPayload.Build
import LowPowerPayload.Proofs.Registry
/-!
# Decoding with a registry that knows more types

A registry `r'` extends `r` when every type id that `r` knows, `r'` knows by the same descriptor.
The frame loop consults its registry only to find the descriptor of each frame's type id, and a
descriptor's rule reads the frame's data and nothing else. So under `r'` the loop reads the same
frames and fails the same way as under `r`, until `r` meets a type id it does not know: there
`r` stops with an unknown type, and `r'`, if it knows the id, reads on (`scan_tracks`). This holds
for every registry, negative widths included, since the loop that reads by index after a
negative width consults the registry in the same way.

Registration adds a descriptor under a free id only, or raises and changes nothing, and a catalog
registers its types one by one, so both extend the registry; a removal erases one id, so the registry before it extends
the one after it. `decode_eq_of_extends` puts these together: a registry that extends another
decodes every payload the other decodes, to the same map, and a removal changes how a payload
decodes only when a frame names the removed id.
-/

namespace LowPowerPayload

namespace Registry

/-- `r'` knows every type id that `r` knows, by the same descriptor. -/
def Extends (r' r : Registry) : Prop := ∀ t d, r.find? t = some d → r'.find? t = some d

variable {r r' : Registry}

theorem Extends.refl (r : Registry) : r.Extends r := fun _ _ h => h

theorem Extends.trans {r₁ r₂ r₃ : Registry} (h₂₁ : r₂.Extends r₁) (h₃₂ : r₃.Extends r₂) :
    r₃.Extends r₁ :=
  fun t d h => h₃₂ t d (h₂₁ t d h)

/-- Inserting a descriptor under an id the registry does not know extends the registry. -/
theorem extends_insert {d : Descriptor} (h : r.find? d.typeId = none) : (r.insert d).Extends r := by
  intro t e he
  have hne : d.typeId ≠ t := by
    rintro rfl
    rw [h] at he
    cases he
  rw [find?_insert, if_neg hne, he]

/-- A registry extends itself with one id erased. -/
theorem extends_erase (k : Int) : r.Extends (r.erase k) := by
  intro t e he
  rw [find?_erase] at he
  split at he
  · cases he
  · exact he

/-! ### Two runs of the frame loop -/

/-- The scan `s'` that `r'` reads where `r` reads `s` tracks it: it is `s`, unless `s` stopped at a
frame whose type id `r` does not know and `r'` does. -/
def Tracks (r r' : Registry) (s s' : Scan) : Prop :=
  s' = s ∨ ∃ t o, s.failure = some (.payload (.unknownType t (some o))) ∧ r.find? t = none ∧
    (r'.find? t).isSome

/-- A frame read under both registries keeps the scans after it tracking each other. -/
theorem Tracks.cons {s s' : Scan} (h : Tracks r r' s s') (f : Frame) :
    Tracks r r' (s.cons f) (s'.cons f) := by
  rcases h with rfl | ⟨t, o, hfail, hr, hr'⟩
  · exact .inl rfl
  · exact .inr ⟨t, o, hfail, hr, hr'⟩

/-- At a type id that `r` does not know, `r` stops; `r'` stops the same way unless it knows the
id. -/
theorem tracks_unknown (t : Int) (o : Int) (hr : r.find? t = none) (s' : Scan)
    (hs' : r'.find? t = none → s' = .stop (.payload (.unknownType t (some o)))) :
    Tracks r r' (.stop (.payload (.unknownType t (some o)))) s' := by
  cases hr' : r'.find? t with
  | none => exact .inl (hs' hr')
  | some d => exact .inr ⟨t, o, rfl, hr, by simp [hr']⟩

/-- Reading by index, `r'` tracks `r`: the two runs take the same branch at every frame whose
type id `r` knows. -/
theorem wander_tracks (hext : r'.Extends r) (payload : List UInt8) (fuel : Nat) (pos : Int) :
    Tracks r r' (r.wander payload fuel pos) (r'.wander payload fuel pos) := by
  induction fuel generalizing pos with
  | zero => exact .inl rfl
  | succ fuel ih =>
    simp only [wander]
    split
    · exact .inl rfl
    · split
      · next c t _ _ =>
        cases hd : r.find? t.toNat with
        | none =>
          exact tracks_unknown _ _ hd _ (fun hd' => by rw [hd'])
        | some d =>
          simp only [hext _ _ hd]
          split
          · exact .inl rfl
          · split
            · exact .inl rfl
            · exact (ih _).cons _
      · exact .inl rfl

/-- Reading a payload as a list, `r'` tracks `r`. -/
theorem scanFrom_tracks (hext : r'.Extends r) (payload : List UInt8) (pos : Nat)
    (bs : List UInt8) : Tracks r r' (r.scanFrom payload pos bs) (r'.scanFrom payload pos bs) := by
  fun_induction r.scanFrom payload pos bs with
  | case1 pos => exact .inl (by rw [scanFrom.eq_1])
  | case2 pos c => exact .inl (by rw [scanFrom.eq_2])
  | case3 pos c t more hd =>
    exact tracks_unknown _ _ hd _ (fun hd' => by rw [scanFrom.eq_3, hd'])
  | case4 pos c t more d hd hnn w hshort =>
    exact .inl (by simp [scanFrom.eq_3, hext _ _ hd, hnn, w, hshort])
  | case5 pos c t more d hd hnn w hlong e he =>
    exact .inl (by simp [scanFrom.eq_3, hext _ _ hd, hnn, w, hlong, he])
  | case6 pos c t more d hd hnn w hlong v hv ih =>
    have h' := ih.cons ⟨c.toNat, t.toNat, d.width, pos + 2, d.outputKey c.toNat, v⟩
    simp only [w] at h' hlong hv
    simp only [scanFrom.eq_3, hext _ _ hd, hnn, if_true, hlong, if_false, hv]
    exact h'
  | case7 pos c t more d hd hneg =>
    simp only [scanFrom.eq_3, hext _ _ hd, hneg, if_false]
    exact wander_tracks hext payload _ _

/-- A payload decodes under `r'` as under `r`, unless under `r` it stops at a frame whose type id
`r` does not know and `r'` does. -/
theorem decode_tracks (hext : r'.Extends r) (bs : List UInt8) :
    r'.decode bs = r.decode bs ∨ ∃ t o, r.decode bs = .error (.payload (.unknownType t (some o))) ∧
      r.find? t = none ∧ (r'.find? t).isSome := by
  have htrack : Tracks r r' (r.scan bs) (r'.scan bs) := by
    unfold scan
    split
    · exact .inl rfl
    · exact scanFrom_tracks hext bs 0 bs
  rcases htrack with heq | ⟨t, o, hfail, hr, hr'⟩
  · exact .inl (by rw [decode, decode, heq])
  · exact .inr ⟨t, o, by simp [decode, Scan.result, hfail], hr, hr'⟩

end Registry

/-! ### Registration and removal -/

namespace Decoder

open Registry

/-- A registration of a name written already, whether it succeeds or not, leaves a registry that
extends the one before. -/
theorem extends_addNamed (d : Decoder) (typeId : Datum) (name : String) (width : Datum)
    (slot : RuleSlot) : (d.addNamed typeId name width slot).2.1.registry.Extends d.registry := by
  cases hadd : (d.addNamed typeId name width slot).1
  · rw [addNamed_eq_self hadd]
    exact Extends.refl _
  · obtain ⟨t, w, rule, -, -, -, -, -, hfree, -, heq⟩ := addNamed_eq_insert hadd
    rw [heq]
    exact extends_insert hfree

/-- A registration that returns, whether it succeeds or not, leaves a registry that extends the
one before. -/
theorem extends_add {d d' : Decoder} {typeId name width : Datum} {slot : RuleSlot} {ok : Bool}
    {evs : List Event} (h : d.add typeId name width slot = .ok (ok, d', evs)) :
    d'.registry.Extends d.registry := by
  obtain ⟨s, -, hd', -⟩ := add_eq_ok_addNamed h
  rw [hd']
  exact extends_addNamed d typeId s width slot

/-- A successful removal erases the one id its key equals. -/
theorem remove_registry {d d' : Decoder} {key : Datum} {evs : List Event}
    (h : d.remove key = .ok (true, d', evs)) :
    ∃ k, key.looseEq (.int k) = true ∧ d'.registry = d.registry.erase k := by
  obtain ⟨k, -, hk, -, -, rfl⟩ := remove_eq_erase h
  exact ⟨k, hk, rfl⟩

end Decoder

open Registry in
/-- Registering catalog types, in order, leaves a registry that extends the one before. -/
theorem extends_registerSpecs (d : Decoder) (specs : List TypeSpec) :
    (registerSpecs d specs).1.registry.Extends d.registry := by
  induction specs generalizing d with
  | nil => exact Extends.refl _
  | cons s rest ih =>
    -- the run goes on from the decoder the first registration leaves
    exact (Decoder.extends_addNamed d _ _ _ _).trans (ih _)

namespace Registry

/-- Erasing an id changes how a payload decodes only when decoding without the id stops at a
frame that names it. -/
theorem decode_erase (r : Registry) (k : Int) (bs : List UInt8) :
    (r.erase k).decode bs = r.decode bs ∨
      ∃ o, (r.erase k).decode bs = .error (.payload (.unknownType k (some o))) := by
  rcases decode_tracks (extends_erase (r := r) k) bs with heq | ⟨t, o, hfail, hnone, hsome⟩
  · exact .inl heq.symm
  · -- the id the erased registry misses and `r` knows is the erased one
    have hkt : k = t := by
      rw [find?_erase] at hnone
      by_contra hne
      rw [if_neg hne] at hnone
      simp [hnone] at hsome
    exact .inr ⟨o, hkt ▸ hfail⟩

/-- Decoding with a registry `r'` that extends `r`. A payload that decodes under `r` decodes under
`r'` to the same map, and more generally has the same outcome under both, failure details
included, unless under `r` it stops at a frame whose type id `r` does not know and `r'` does.
Hence a registration, by a caller or by a catalog, never changes how a payload that decodes
decodes, and a successful removal changes how a payload decodes only when decoding after it stops
at a frame that names the removed id. -/
theorem decode_eq_of_extends (r r' : Registry) (hext : r'.Extends r) (bs : List UInt8) :
    (∀ M, r.decode bs = .ok M → r'.decode bs = .ok M) ∧
    (r'.decode bs = r.decode bs ∨ ∃ t o, r.decode bs = .error (.payload (.unknownType t (some o))) ∧
      r.find? t = none ∧ (r'.find? t).isSome) ∧
    (∀ (d d' : Decoder) (typeId name width : Datum) (slot : RuleSlot) (ok : Bool)
      (evs : List Event) M, d.registry.decode bs = .ok M →
        d.add typeId name width slot = .ok (ok, d', evs) → d'.registry.decode bs = .ok M) ∧
    (∀ (d : Decoder) (specs : List TypeSpec) M,
      d.registry.decode bs = .ok M → (registerSpecs d specs).1.registry.decode bs = .ok M) ∧
    (∀ (d d' : Decoder) (key : Datum) (evs : List Event), d.remove key = .ok (true, d', evs) →
      ∃ k, key.looseEq (.int k) = true ∧ (d'.registry.decode bs = d.registry.decode bs ∨
        ∃ o, d'.registry.decode bs = .error (.payload (.unknownType k (some o))))) := by
  -- a payload that decodes has the same outcome under every registry that extends its own
  have hok : ∀ {r₁ r₂ : Registry}, r₂.Extends r₁ → ∀ M, r₁.decode bs = .ok M →
      r₂.decode bs = .ok M := by
    intro r₁ r₂ h M hM
    rcases decode_tracks h bs with heq | ⟨t, o, hfail, -, -⟩
    · rw [heq, hM]
    · rw [hM] at hfail
      cases hfail
  refine ⟨hok hext, decode_tracks hext bs, fun d d' typeId name width slot ok evs M hM h =>
    hok (Decoder.extends_add h) M hM, fun d specs =>
    hok (extends_registerSpecs d specs), fun d d' key evs h => ?_⟩
  obtain ⟨k, hk, hreg⟩ := Decoder.remove_registry h
  exact ⟨k, hk, hreg ▸ decode_erase d.registry k bs⟩

/-- The standard registry with a custom type under the free id `0xF0` extends the standard
registry, so a temperature frame decodes the same under both. -/
theorem decode_eq_of_extends_battery :
    (standard.insert ⟨0xF0, "Battery", 2, false, .ready .hex⟩).Extends standard ∧
    (∀ M, standard.decode [1, 0x67, 0x01, 0x10] = .ok M →
      (standard.insert ⟨0xF0, "Battery", 2, false, .ready .hex⟩).decode [1, 0x67, 0x01, 0x10] =
        .ok M) ∧
    ((standard.insert ⟨0xF0, "Battery", 2, false, .ready .hex⟩).decode [1, 0x67, 0x01, 0x10] =
        standard.decode [1, 0x67, 0x01, 0x10] ∨
      ∃ t o, standard.decode [1, 0x67, 0x01, 0x10] = .error (.payload (.unknownType t (some o))) ∧
        standard.find? t = none ∧
        ((standard.insert ⟨0xF0, "Battery", 2, false, .ready .hex⟩).find? t).isSome) ∧
    (∀ (d d' : Decoder) (typeId name width : Datum) (slot : RuleSlot) (ok : Bool)
      (evs : List Event) M, d.registry.decode [1, 0x67, 0x01, 0x10] = .ok M →
        d.add typeId name width slot = .ok (ok, d', evs) →
          d'.registry.decode [1, 0x67, 0x01, 0x10] = .ok M) ∧
    (∀ (d : Decoder) (specs : List TypeSpec) M, d.registry.decode [1, 0x67, 0x01, 0x10] = .ok M →
      (registerSpecs d specs).1.registry.decode [1, 0x67, 0x01, 0x10] = .ok M) ∧
    (∀ (d d' : Decoder) (key : Datum) (evs : List Event), d.remove key = .ok (true, d', evs) →
      ∃ k, key.looseEq (.int k) = true ∧
        (d'.registry.decode [1, 0x67, 0x01, 0x10] = d.registry.decode [1, 0x67, 0x01, 0x10] ∨
          ∃ o, d'.registry.decode [1, 0x67, 0x01, 0x10] =
            .error (.payload (.unknownType k (some o))))) := by
  have hext : (standard.insert ⟨0xF0, "Battery", 2, false, .ready .hex⟩).Extends standard :=
    extends_insert (by rfl)
  exact ⟨hext, decode_eq_of_extends standard _ hext [1, 0x67, 0x01, 0x10]⟩

end Registry

end LowPowerPayload
