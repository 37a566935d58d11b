import LowPowerPayload.Decoder
import LowPowerPayload.Proofs.Frames
import LowPowerPayload.Proofs.Written
/-!
# Registering and removing data types

A decoder's registry changes only through registration and removal, and a caller may hand
either any value as an id, a width or a rule. This module says what each call does to the
registry, seen through `Registry.find?`:

* a registration succeeds exactly when the id is an integer in `0..255` that no descriptor has,
  the width an integer of at least one, the slot a rule, and the name can be written as text,
  and then adds that one descriptor; a registration that passes its checks raises when the name
  cannot be written: it holds an integer too long for decimal or nests too deep;
* a removal succeeds exactly when the key equals, by value, the id of a custom descriptor, and
  then takes that one descriptor away;
* a call that fails changes nothing, and a removal raises exactly when its key cannot be hashed.

From these, `TypeCall.run_keeps_standard` shows that no run of calls touches a standard
descriptor, and every registry a fresh decoder reaches keeps the standard types, lists no
negative width, and holds only custom descriptors that registration admits.
-/

namespace LowPowerPayload

namespace Registry

variable {r : Registry}

/-! ### Looking up ids -/

theorem typeId_of_find? {t : Int} {e : Descriptor} (h : r.find? t = some e) : e.typeId = t := by
  simpa using List.find?_some h

private theorem find?_place (d : Descriptor) (ds : List Descriptor) (k : Int) :
    (place d ds).find? (fun e => e.typeId == k) =
      if d.typeId = k then some d else ds.find? (fun e => e.typeId == k) := by
  induction ds with
  | nil => by_cases h : d.typeId = k <;> simp [place, h]
  | cons e rest ih =>
    simp only [place]
    split
    · by_cases h : d.typeId = k <;> simp [h]
    · next hlt =>
      split
      · next heq =>
        by_cases h : d.typeId = k
        · simp [h]
        · have he : ¬ e.typeId = k := heq ▸ h
          simp [h, he]
      · next heq =>
        -- `e` comes before `d`'s place and has a smaller id
        by_cases he : e.typeId = k
        · have hd : ¬ d.typeId = k := by omega
          simp [he, hd]
        · simp [he, ih]

/-- After an insertion, the new descriptor is found under its id, and every other id finds
what it found before. -/
theorem find?_insert (d : Descriptor) (k : Int) :
    (r.insert d).find? k = if d.typeId = k then some d else r.find? k :=
  find?_place d r.descriptors k

/-- After an erasure, the erased id finds nothing, and every other id finds what it found
before. -/
theorem find?_erase (t k : Int) : (r.erase t).find? k = if t = k then none else r.find? k := by
  simp only [find?, erase, List.find?_filter]
  split
  · next h =>
    subst h
    simp
  · next h =>
    congr 1
    funext e
    by_cases he : e.typeId = k
    · have ht : ¬ k = t := fun h' => h h'.symm
      simp [he, ht]
    · simp [he]

theorem mem_insert {d e : Descriptor} (h : e ∈ (r.insert d).descriptors) :
    e = d ∨ e ∈ r.descriptors := by
  obtain ⟨ds⟩ := r
  simp only [insert] at h ⊢
  induction ds with
  | nil => simpa [place] using h
  | cons x rest ih =>
    simp only [place] at h
    split at h
    · simpa using h
    · split at h
      · simp only [List.mem_cons] at h ⊢
        rcases h with h | h
        · exact .inl h
        · exact .inr (.inr h)
      · simp only [List.mem_cons] at h ⊢
        rcases h with h | h
        · exact .inr (.inl h)
        · rcases ih h with h | h
          · exact .inl h
          · exact .inr (.inr h)

theorem mem_erase {t : Int} {e : Descriptor} (h : e ∈ (r.erase t).descriptors) :
    e ∈ r.descriptors :=
  (List.mem_filter.mp h).1

/-- A loose key denotes an id exactly when it equals that id by value. -/
theorem keyId_eq_ok_some_iff (key : Datum) (k : Int) :
    keyId key = .ok (some k) ↔ key.looseEq (.int k) = true := by
  cases key with
  | bool b =>
    have h : Datum.looseEq (.bool b) (.int k) = ((if b then 1 else 0) == k) := rfl
    cases b <;> simp [keyId, Datum.intValue?, h]
  | int n =>
    have h : Datum.looseEq (.int n) (.int k) = (n == k) := rfl
    simp [keyId, Datum.intValue?, h]
  | float x =>
    have h : Datum.looseEq (.float x) (.int k) = (Datum.int k).eqFloat x := rfl
    simp only [keyId, h, Datum.eqFloat, Datum.intValue?]
    cases hx : Decimal.exactInt? x with
    | none => simp
    | some m =>
      simp only [Except.ok.injEq, Option.some.injEq, beq_iff_eq]
      exact eq_comm
  -- no other key equals an integer
  | _ => exact ⟨fun h => by simp [keyId, Datum.intValue?] at h,
      fun h => absurd h Bool.false_ne_true⟩

/-- Reading a key as an id fails exactly on a key that cannot be hashed. -/
theorem keyId_eq_error_iff (key : Datum) : (∃ f, keyId key = .error f) ↔ key.hashable = false := by
  cases key <;> simp [keyId, Datum.hashable]

/-! ### Registration -/

/-- What registration admits: an integer id in `0..255` that no descriptor has, an integer width
of at least one, and a rule. A truth value is neither an id nor a width. -/
def Admits (r : Registry) (typeId width : Datum) (slot : RuleSlot) : Prop :=
  ∃ t w rule, typeId = .int t ∧ 0 ≤ t ∧ t ≤ 255 ∧ r.find? t = none ∧
    width = .int w ∧ 1 ≤ w ∧ slot = .ready rule

/-- The checks of a registration pass exactly on what registration admits, and pass on the id,
width and rule given. -/
theorem approve_eq_ok_iff (typeId width : Datum) (slot : RuleSlot) (a : Approval) :
    r.approve typeId width slot = .ok a ↔
      ∃ t w rule, typeId = .int t ∧ 0 ≤ t ∧ t ≤ 255 ∧ r.find? t = none ∧
        width = .int w ∧ 1 ≤ w ∧ slot = .ready rule ∧ a = ⟨t, w, rule⟩ := by
  constructor
  · intro h
    unfold approve at h
    split at h
    · next t =>
      split at h
      · simp at h
      · split at h
        · simp at h
        · next hfind =>
          split at h
          · next w =>
            split at h
            · simp at h
            · split at h
              · next rule =>
                refine ⟨t, w, rule, rfl, by omega, by omega, hfind, rfl, by omega, rfl, ?_⟩
                exact (Except.ok.inj h).symm
              · simp at h
          · simp at h
    · simp at h
  · rintro ⟨t, w, rule, rfl, h0, h255, hfind, rfl, hw, rfl, rfl⟩
    have hrange : ¬ (t < 0 ∨ t > 255) := by omega
    have hw' : ¬ w < 1 := by omega
    simp [approve, hrange, hfind, hw']

theorem approve_ok_of_admits {typeId width : Datum} {slot : RuleSlot}
    (h : r.Admits typeId width slot) : ∃ a, r.approve typeId width slot = .ok a := by
  obtain ⟨t, w, rule, h⟩ := h
  exact ⟨⟨t, w, rule⟩, (approve_eq_ok_iff _ _ _ _).mpr ⟨t, w, rule, by simp_all⟩⟩

/-- What the checks pass is admitted. -/
theorem admits_of_approve_eq_ok {typeId width : Datum} {slot : RuleSlot} {a : Approval}
    (ha : r.approve typeId width slot = .ok a) : r.Admits typeId width slot := by
  obtain ⟨t, w, rule, h⟩ := (approve_eq_ok_iff _ _ _ _).mp ha
  exact ⟨t, w, rule, by simp_all⟩

/-- What the checks refuse is not admitted. -/
theorem not_admits_of_approve_eq_error {typeId width : Datum} {slot : RuleSlot}
    {reason : Rejection} (hrej : r.approve typeId width slot = .error reason) :
    ¬ r.Admits typeId width slot := fun h => by
  obtain ⟨a, ha⟩ := approve_ok_of_admits h
  rw [ha] at hrej
  cases hrej

end Registry

namespace Decoder

open Registry

/-! ### The calls one by one -/

/-- A registration of a name written already reports success exactly when registration admits
its arguments. -/
theorem addNamed_fst_eq_true_iff (d : Decoder) (typeId : Datum) (name : String) (width : Datum)
    (slot : RuleSlot) :
    (d.addNamed typeId name width slot).1 = true ↔ d.registry.Admits typeId width slot := by
  constructor
  · intro h
    unfold addNamed at h
    split at h
    · simp at h
    · next a ha => exact admits_of_approve_eq_ok ha
  · intro h
    obtain ⟨a, ha⟩ := approve_ok_of_admits h
    simp [addNamed, ha]

/-- A registration of a name written already that reports success has admitted an integer id
and width and a rule, and adds the one custom descriptor of them under that name. -/
theorem addNamed_eq_insert {d : Decoder} {typeId : Datum} {name : String} {width : Datum}
    {slot : RuleSlot} (h : (d.addNamed typeId name width slot).1 = true) :
    ∃ t w rule, typeId = .int t ∧ width = .int w ∧ slot = .ready rule ∧
      0 ≤ t ∧ t ≤ 255 ∧ d.registry.find? t = none ∧ 1 ≤ w ∧
      (d.addNamed typeId name width slot).2.1 =
        ⟨d.registry.insert ⟨t, name, w, false, .ready rule⟩⟩ := by
  obtain ⟨t, w, rule, rfl, h0, h255, hfind, rfl, hw1, rfl⟩ := (addNamed_fst_eq_true_iff ..).mp h
  have ha : d.registry.approve (.int t) (.int w) (.ready rule) = .ok ⟨t, w, rule⟩ :=
    (approve_eq_ok_iff _ _ _ _).mpr ⟨t, w, rule, rfl, h0, h255, hfind, rfl, hw1, rfl, rfl⟩
  exact ⟨t, w, rule, rfl, rfl, rfl, h0, h255, hfind, hw1,
    by simp [addNamed, ha, Approval.descriptor]⟩

/-- A registration of a name written already that reports failure leaves the decoder as it
was. -/
theorem addNamed_eq_self {d : Decoder} {typeId : Datum} {name : String} {width : Datum}
    {slot : RuleSlot} (h : (d.addNamed typeId name width slot).1 = false) :
    (d.addNamed typeId name width slot).2.1 = d := by
  unfold addNamed at h ⊢
  split <;> simp_all

/-- What a registration does: refused, it reports the refusal whatever the name; admitted, it
writes the name within `Registry.nameRoom` levels and registers that text, or raises the fault
of writing it. -/
theorem add_eq_ok_iff (d : Decoder) (typeId name width : Datum) (slot : RuleSlot)
    (res : Bool × Decoder × List Event) :
    d.add typeId name width slot = .ok res ↔
      ∃ s, res = d.addNamed typeId s width slot ∧
        (¬ d.registry.Admits typeId width slot ∨ name.written nameRoom = .ok s) := by
  unfold add
  split
  · next reason hrej =>
    -- a refusal does not look at the name
    have hnot := not_admits_of_approve_eq_error hrej
    have hres : ∀ s, d.addNamed typeId s width slot = (false, d, [.rejected typeId reason]) :=
      fun s => by simp [addNamed, hrej]
    simp only [Except.ok.injEq, hres, hnot, not_false_eq_true, true_or, and_true,
      exists_const]
    exact eq_comm
  · next a ha =>
    have hadm := admits_of_approve_eq_ok ha
    cases hw : name.written nameRoom with
    | error f => simp [Except.map, hadm]
    | ok s => simp [Except.map, hadm, eq_comm]

/-- A registration raises exactly when registration admits its arguments and the name cannot be
written, and then with the fault of writing it. -/
theorem add_eq_error_iff (d : Decoder) (typeId name width : Datum) (slot : RuleSlot) (f : Fault) :
    d.add typeId name width slot = .error f ↔
      d.registry.Admits typeId width slot ∧ name.written nameRoom = .error f := by
  unfold add
  split
  · next reason hrej =>
    simp only [reduceCtorEq, false_iff, not_and]
    exact fun h => absurd h (not_admits_of_approve_eq_error hrej)
  · next a ha =>
    cases hw : name.written nameRoom <;> simp [Except.map, admits_of_approve_eq_ok ha]

/-- A registration that returns reports what registering some text of the name reports, and
leaves the decoder that registration gives; the text is the name written, unless the
registration was refused. -/
theorem add_eq_ok_addNamed {d d' : Decoder} {typeId name width : Datum} {slot : RuleSlot}
    {ok : Bool} {evs : List Event} (h : d.add typeId name width slot = .ok (ok, d', evs)) :
    ∃ s, (d.addNamed typeId s width slot).1 = ok ∧ d' = (d.addNamed typeId s width slot).2.1 ∧
      (¬ d.registry.Admits typeId width slot ∨ name.written nameRoom = .ok s) := by
  obtain ⟨s, hres, hcase⟩ := (add_eq_ok_iff ..).mp h
  exact ⟨s, by rw [← hres], by rw [← hres], hcase⟩

/-- A registration that reports success was admitted, wrote the name, and leaves the decoder the
registration of that text gives. -/
theorem add_eq_ok_true {d d' : Decoder} {typeId name width : Datum} {slot : RuleSlot}
    {evs : List Event} (h : d.add typeId name width slot = .ok (true, d', evs)) :
    ∃ s, d.registry.Admits typeId width slot ∧ name.written nameRoom = .ok s ∧
      (d.addNamed typeId s width slot).1 = true ∧ d' = (d.addNamed typeId s width slot).2.1 := by
  obtain ⟨s, htrue, hd', hcase⟩ := add_eq_ok_addNamed h
  have hadm := (addNamed_fst_eq_true_iff ..).mp htrue
  exact ⟨s, hadm, hcase.resolve_left (not_not.mpr hadm), htrue, hd'⟩

/-- A registration reports success exactly when registration admits its arguments and the name
nests within `Registry.nameRoom` levels and holds no integer too long for decimal. -/
theorem exists_add_true_iff (d : Decoder) (typeId name width : Datum) (slot : RuleSlot) :
    (∃ d' evs, d.add typeId name width slot = .ok (true, d', evs)) ↔
      d.registry.Admits typeId width slot ∧ name.levels ≤ nameRoom ∧
        name.intsWritable = true := by
  rw [← Datum.written_ok_iff (by decide : 3 ≤ nameRoom)]
  constructor
  · rintro ⟨d', evs, h⟩
    obtain ⟨s, hadm, hs, -⟩ := add_eq_ok_true h
    exact ⟨hadm, s, hs⟩
  · rintro ⟨hadm, s, hs⟩
    have htrue := (addNamed_fst_eq_true_iff d typeId s width slot).mpr hadm
    refine ⟨(d.addNamed typeId s width slot).2.1, (d.addNamed typeId s width slot).2.2, ?_⟩
    rw [add_eq_ok_iff]
    exact ⟨s, by rw [← htrue], .inr hs⟩

/-- A registration that reports success adds the one custom descriptor of its id, name, width
and rule, the name written as its display text, and every other id finds what it found
before. -/
theorem find?_add {d d' : Decoder} {typeId name width : Datum} {slot : RuleSlot} {t w : Int}
    {rule : Rule} {evs : List Event} (ht : typeId = .int t) (hw : width = .int w)
    (hs : slot = .ready rule) (h : d.add typeId name width slot = .ok (true, d', evs)) (k : Int) :
    d'.registry.find? k =
      if t = k then some ⟨t, name.toText, w, false, .ready rule⟩ else d.registry.find? k := by
  obtain ⟨s, -, hwritten, htrue, hd'⟩ := add_eq_ok_true h
  -- the name was written as its display text
  have hname : s = name.toText := Datum.written_eq_ok hwritten
  obtain ⟨t', w', rule', ht', hw', hs', -, -, -, -, heq⟩ := addNamed_eq_insert htrue
  subst ht hw hs hname
  cases ht'; cases hw'; cases hs'
  rw [hd', heq, Registry.find?_insert]

/-- A registration that reports failure leaves the decoder as it was. -/
theorem add_eq_self {d d' : Decoder} {typeId name width : Datum} {slot : RuleSlot}
    {evs : List Event} (h : d.add typeId name width slot = .ok (false, d', evs)) : d' = d := by
  obtain ⟨s, hfalse, hd', -⟩ := add_eq_ok_addNamed h
  rw [hd', addNamed_eq_self hfalse]

/-- A registration raises exactly when registration admits its arguments and the name nests
deeper than `Registry.nameRoom` levels or holds an integer too long for decimal. -/
theorem exists_add_error_iff (d : Decoder) (typeId name width : Datum) (slot : RuleSlot) :
    (∃ f, d.add typeId name width slot = .error f) ↔
      d.registry.Admits typeId width slot ∧
        ¬ (name.levels ≤ nameRoom ∧ name.intsWritable = true) := by
  rw [← Datum.written_ok_iff (by decide : 3 ≤ nameRoom)]
  simp only [add_eq_error_iff, not_exists]
  constructor
  · rintro ⟨f, hadm, hf⟩
    exact ⟨hadm, fun s hs => by rw [hs] at hf; cases hf⟩
  · rintro ⟨hadm, hnot⟩
    cases hw : name.written nameRoom with
    | error f => exact ⟨f, hadm, rfl⟩
    | ok s => exact absurd hw (hnot s)

/-- A registration that raises names what the name lacks: an integer too long for decimal is
one the name holds, and a nesting too deep is one deeper than `Registry.nameRoom`. -/
theorem add_error {d : Decoder} {typeId name width : Datum} {slot : RuleSlot} {f : Fault}
    (h : d.add typeId name width slot = .error f) :
    (f = .tooLongToWrite ∧ name.intsWritable = false) ∨
      (f = .nestedTooDeep ∧ nameRoom < name.levels) :=
  Datum.written_error ((add_eq_error_iff ..).mp h).2

/-- What a removal does, read off the id its key denotes. -/
theorem remove_eq (d : Decoder) (key : Datum) :
    d.remove key =
      match keyId key with
      | .error f => .error f
      | .ok id? => .ok (match id?.bind d.registry.find? with
        | none => (false, d, [])
        | some e =>
          if e.standard then (false, d, [.removeRefused key])
          else (true, ⟨d.registry.erase e.typeId⟩, [.removed key])) := by
  simp only [remove, Registry.remove, lookup]
  cases keyId key with
  | error f => rfl
  | ok id? =>
    simp only [Except.map]
    cases id?.bind d.registry.find? with
    | none => rfl
    | some e => by_cases hs : e.standard <;> simp [hs]

/-- A removal that reports success has found a custom descriptor under the id its key equals,
and erases that id. -/
theorem remove_eq_erase {d d' : Decoder} {key : Datum} {evs : List Event}
    (h : d.remove key = .ok (true, d', evs)) :
    ∃ k e, key.looseEq (.int k) = true ∧ d.registry.find? k = some e ∧ e.standard = false ∧
      d' = ⟨d.registry.erase k⟩ := by
  rw [remove_eq] at h
  split at h
  · simp at h
  · next id? hid =>
    cases hfind : id?.bind d.registry.find? with
    | none => simp [hfind] at h
    | some e =>
      obtain ⟨k, rfl, hk⟩ := Option.bind_eq_some_iff.mp hfind
      cases hs : e.standard
      · simp only [hfind, hs, Bool.false_eq_true, if_false, Except.ok.injEq, Prod.mk.injEq,
          true_and] at h
        obtain ⟨rfl, -⟩ := h
        exact ⟨k, e, (keyId_eq_ok_some_iff key k).mp hid, hk, hs, by rw [typeId_of_find? hk]⟩
      · simp [hfind, hs] at h

/-- A removal reports success exactly when its key equals, by value, the id of a custom
descriptor. -/
theorem remove_true_iff (d : Decoder) (key : Datum) :
    (∃ d' evs, d.remove key = .ok (true, d', evs)) ↔
      ∃ k e, key.looseEq (.int k) = true ∧ d.registry.find? k = some e ∧ e.standard = false := by
  constructor
  · rintro ⟨d', evs, h⟩
    obtain ⟨k, e, hk, hfind, hs, -⟩ := remove_eq_erase h
    exact ⟨k, e, hk, hfind, hs⟩
  · rintro ⟨k, e, hk, hfind, hs⟩
    rw [remove_eq, (keyId_eq_ok_some_iff key k).mpr hk]
    exact ⟨⟨d.registry.erase e.typeId⟩, [.removed key], by simp [hfind, hs]⟩

/-- A removal that reports success takes away the descriptor of the id its key equals, and
nothing else. -/
theorem find?_remove {d d' : Decoder} {key : Datum} {evs : List Event}
    (h : d.remove key = .ok (true, d', evs)) :
    ∃ k, key.looseEq (.int k) = true ∧
      ∀ j, d'.registry.find? j = if k = j then none else d.registry.find? j := by
  obtain ⟨k, e, hk, -, -, rfl⟩ := remove_eq_erase h
  exact ⟨k, hk, fun j => find?_erase k j⟩

/-- A removal that reports failure leaves the decoder as it was. -/
theorem remove_eq_self {d d' : Decoder} {key : Datum} {evs : List Event}
    (h : d.remove key = .ok (false, d', evs)) : d' = d := by
  rw [remove_eq] at h
  split at h
  · simp at h
  · next id? _ =>
    cases hfind : id?.bind d.registry.find? with
    | none => simp_all
    | some e =>
      simp only [hfind] at h
      split at h <;> simp_all

/-- A removal raises exactly when its key cannot be hashed. -/
theorem remove_raises_iff (d : Decoder) (key : Datum) :
    (∃ f, d.remove key = .error f) ↔ key.hashable = false := by
  rw [← keyId_eq_error_iff, remove_eq]
  cases keyId key <;> simp

end Decoder

/-! ### Runs of calls -/

/-- A call a caller makes on a decoder's types, with arguments of any type. -/
inductive TypeCall where
  | add (typeId name width : Datum) (slot : RuleSlot)
  | remove (key : Datum)
  | lookup (key : Datum)
  | contains (key : Datum)

namespace TypeCall

/-- The decoder after a call; a call that raises leaves it as it was. -/
def after (d : Decoder) : TypeCall → Decoder
  | .add typeId name width slot =>
    match d.add typeId name width slot with
    | .ok (_, d', _) => d'
    | .error _ => d
  | .remove key =>
    match d.remove key with
    | .ok (_, d', _) => d'
    | .error _ => d
  | .lookup _ | .contains _ => d

/-- The decoder after a run of calls. -/
def run (d : Decoder) (calls : List TypeCall) : Decoder := calls.foldl after d

/-- Every call adds one custom descriptor under a free id in `0..255` with a width of at least
one, erases the id of a custom descriptor, or changes nothing. -/
theorem after_cases (d : Decoder) (c : TypeCall) :
    c.after d = d ∨
    (∃ t name w rule, 0 ≤ t ∧ t ≤ 255 ∧ d.registry.find? t = none ∧ 1 ≤ w ∧
      c.after d = ⟨d.registry.insert ⟨t, name, w, false, .ready rule⟩⟩) ∨
    (∃ k e, d.registry.find? k = some e ∧ e.standard = false ∧
      c.after d = ⟨d.registry.erase k⟩) := by
  cases c with
  | add typeId name width slot =>
    rcases hadd : d.add typeId name width slot with f | ⟨ok, d', evs⟩
    · exact .inl (by simp [after, hadd])
    · cases ok
      · exact .inl (by simp [after, hadd, Decoder.add_eq_self hadd])
      · -- the registration wrote the name and inserted the one descriptor
        obtain ⟨s, hres, -⟩ := (Decoder.add_eq_ok_iff ..).mp hadd
        have htrue : (d.addNamed typeId s width slot).1 = true := by rw [← hres]
        obtain ⟨t, w, rule, -, -, -, h0, h255, hfree, hw, heq⟩ := Decoder.addNamed_eq_insert htrue
        have hd' : d' = (d.addNamed typeId s width slot).2.1 := by rw [← hres]
        exact .inr (.inl ⟨t, s, w, rule, h0, h255, hfree, hw, by simp [after, hadd, hd', heq]⟩)
  | remove key =>
    rcases hrem : d.remove key with f | ⟨ok, d', evs⟩
    · exact .inl (by simp [after, hrem])
    · cases ok
      · exact .inl (by simp [after, hrem, Decoder.remove_eq_self hrem])
      · obtain ⟨k, e, -, hfind, hs, rfl⟩ := Decoder.remove_eq_erase hrem
        exact .inr (.inr ⟨k, e, hfind, hs, by simp [after, hrem]⟩)
  | lookup key => exact .inl rfl
  | contains key => exact .inl rfl

/-- No call changes a standard descriptor: registration takes only free ids, and removal only
custom ones. -/
theorem after_keeps_standard (d : Decoder) (c : TypeCall) {t : Int} {e : Descriptor}
    (h : d.registry.find? t = some e) (hs : e.standard = true) :
    (c.after d).registry.find? t = some e := by
  rcases after_cases d c with heq | ⟨t', name, w, rule, -, -, hfree, -, heq⟩ |
      ⟨k, e', hfind, hs', heq⟩
  · rw [heq, h]
  · -- the new id was free, so it is not `t`
    have hne : t' ≠ t := by rintro rfl; simp [hfree] at h
    rw [heq, Registry.find?_insert, if_neg hne, h]
  · -- the erased id is that of a custom descriptor, so it is not `t`
    have hne : k ≠ t := by
      rintro rfl
      rw [h] at hfind
      simp_all
    rw [heq, Registry.find?_erase, if_neg hne, h]

/-- What every call keeps, every run of calls keeps. -/
theorem run_keeps (P : Decoder → Prop) (hstep : ∀ d (c : TypeCall), P d → P (c.after d))
    (d : Decoder) (calls : List TypeCall) (h : P d) : P (run d calls) := by
  induction calls generalizing d with
  | nil => exact h
  | cons c rest ih => exact ih (c.after d) (hstep d c h)

/-- No run of calls changes a standard descriptor, whatever the seed. -/
theorem run_keeps_standard (d : Decoder) (calls : List TypeCall) {t : Int} {e : Descriptor}
    (h : d.registry.find? t = some e) (hs : e.standard = true) :
    (run d calls).registry.find? t = some e :=
  run_keeps (fun d => d.registry.find? t = some e) (fun d c h => after_keeps_standard d c h hs)
    d calls h

end TypeCall

/-! ### Registries a fresh decoder reaches -/

namespace Registry

/-- What holds of every registry a fresh decoder reaches: no width is negative, and every custom
descriptor has an id in `0..255`, a width of at least one and a rule. -/
structure Sound (r : Registry) : Prop where
  widths : r.WidthsNonneg
  customs : ∀ e ∈ r.descriptors, e.standard = false →
    0 ≤ e.typeId ∧ e.typeId ≤ 255 ∧ 1 ≤ e.width ∧ ∃ rule, e.rule = .ready rule

theorem sound_standard : standard.Sound where
  widths := by decide
  customs := by
    have hall : ∀ e ∈ standard.descriptors, e.standard = true := by decide
    intro e he hs
    simp [hall e he] at hs

theorem Sound.insert {r : Registry} (h : r.Sound) {t w : Int} {name : String} {rule : Rule}
    (h0 : 0 ≤ t) (h255 : t ≤ 255) (hw : 1 ≤ w) :
    (r.insert ⟨t, name, w, false, .ready rule⟩).Sound where
  widths e he := by
    rcases mem_insert he with rfl | he
    · show (0 : Int) ≤ w
      omega
    · exact h.widths e he
  customs e he hs := by
    rcases mem_insert he with rfl | he
    · exact ⟨h0, h255, hw, rule, rfl⟩
    · exact h.customs e he hs

theorem Sound.erase {r : Registry} (h : r.Sound) (k : Int) : (r.erase k).Sound where
  widths e he := h.widths e (mem_erase he)
  customs e he := h.customs e (mem_erase he)

/-- The standard registry holds each standard type under its id. -/
theorem find?_standard {s : StandardType} (hs : s ∈ StandardType.all) :
    standard.find? s.typeId = some s.descriptor := by
  simp only [StandardType.all, List.mem_cons, List.not_mem_nil, or_false] at hs
  rcases hs with rfl | rfl | rfl | rfl | rfl | rfl | rfl | rfl | rfl | rfl | rfl | rfl <;> rfl

end Registry

namespace TypeCall

theorem after_sound (d : Decoder) (c : TypeCall) (h : d.registry.Sound) :
    (c.after d).registry.Sound := by
  rcases after_cases d c with heq | ⟨t, name, w, rule, h0, h255, -, hw, heq⟩ | ⟨k, -, -, -, heq⟩
  · rw [heq]
    exact h
  · rw [heq]
    exact h.insert h0 h255 hw
  · rw [heq]
    exact h.erase k

theorem run_sound (d : Decoder) (calls : List TypeCall) (h : d.registry.Sound) :
    (run d calls).registry.Sound :=
  run_keeps (fun d => d.registry.Sound) after_sound d calls h

/-- Registration and removal on a registry of any seed, with arguments of any type. No run of
calls changes a standard descriptor. A registration succeeds exactly when registration admits
its arguments and its name can be written as text, which takes nesting within
`Registry.nameRoom` levels and no integer too long for decimal; it then adds only the new custom
descriptor, under the name's display text. A registration that registration admits raises
exactly when the name cannot be written, with the fault for what the name lacks. A removal
succeeds exactly when its key equals, by value, the id of a custom descriptor, and then takes
only that descriptor away, and it raises exactly on a key that cannot be hashed. A call that
reports failure changes nothing. Every registry a fresh decoder reaches keeps the standard
types and is sound. -/
theorem registry_calls_spec (d : Decoder) (calls : List TypeCall) (typeId name width key : Datum)
    (slot : RuleSlot) :
    (∀ t e, d.registry.find? t = some e → e.standard = true →
      (run d calls).registry.find? t = some e) ∧
    ((∃ d' evs, d.add typeId name width slot = .ok (true, d', evs)) ↔
      d.registry.Admits typeId width slot ∧ name.levels ≤ Registry.nameRoom ∧
        name.intsWritable = true) ∧
    (∀ t w rule d' evs, typeId = .int t → width = .int w → slot = .ready rule →
      d.add typeId name width slot = .ok (true, d', evs) → ∀ k,
        d'.registry.find? k =
          if t = k then some ⟨t, name.toText, w, false, .ready rule⟩ else d.registry.find? k) ∧
    (∀ d' evs, d.add typeId name width slot = .ok (false, d', evs) → d' = d) ∧
    ((∃ f, d.add typeId name width slot = .error f) ↔
      d.registry.Admits typeId width slot ∧
        ¬ (name.levels ≤ Registry.nameRoom ∧ name.intsWritable = true)) ∧
    (∀ f, d.add typeId name width slot = .error f →
      (f = .tooLongToWrite ∧ name.intsWritable = false) ∨
        (f = .nestedTooDeep ∧ Registry.nameRoom < name.levels)) ∧
    ((∃ d' evs, d.remove key = .ok (true, d', evs)) ↔
      ∃ k e, key.looseEq (.int k) = true ∧ d.registry.find? k = some e ∧ e.standard = false) ∧
    (∀ d' evs, d.remove key = .ok (true, d', evs) → ∃ k, key.looseEq (.int k) = true ∧
      ∀ j, d'.registry.find? j = if k = j then none else d.registry.find? j) ∧
    (∀ d' evs, d.remove key = .ok (false, d', evs) → d' = d) ∧
    ((∃ f, d.remove key = .error f) ↔ key.hashable = false) ∧
    (run Decoder.fresh calls).registry.Sound ∧
    ∀ s ∈ StandardType.all,
      (run Decoder.fresh calls).registry.find? s.typeId = some s.descriptor := by
  refine ⟨fun t e h hs => run_keeps_standard d calls h hs,
    Decoder.exists_add_true_iff d typeId name width slot,
    fun t w rule d' evs ht hw hs h k => Decoder.find?_add ht hw hs h k,
    fun _ _ => Decoder.add_eq_self, Decoder.exists_add_error_iff d typeId name width slot,
    fun _ => Decoder.add_error, Decoder.remove_true_iff d key, fun _ _ => Decoder.find?_remove,
    fun _ _ => Decoder.remove_eq_self, Decoder.remove_raises_iff d key,
    run_sound _ calls Registry.sound_standard, fun s hs => ?_⟩
  -- a standard type is a standard descriptor of the fresh registry, which every run keeps
  exact run_keeps_standard _ calls (Registry.find?_standard hs) rfl

end TypeCall

end LowPowerPayload
