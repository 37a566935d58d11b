import Mathlib
import LowPowerPayload.Text.Written
/-!
# What writing a loose value needs

`Datum.reprWithin` writes a value's source text within a room of levels, and `Datum.written`
its display text. This module says, without writing anything, when the writing succeeds and
what it writes:

* `reprWithin_ok_iff`: the source text is written exactly when the value nests within the room
  and every integer it holds can be written in decimal;
* `reprWithin_error`: a failure is a too-long integer only if the value holds one, and a
  nesting too deep only if the value nests deeper than the room;
* `reprWithin_eq_ok`: what is written is the value's source text `Datum.repr`;
* `written_ok_iff`, `written_error` and `written_eq_ok` say the same of the display text, given
  room for any scalar, with the failures as the faults they raise.
-/

namespace LowPowerPayload

/-! ### Traversals that may fail -/

section Traversal

variable {α β ε : Type} {f : α → Except ε β}

/-- A traversal succeeds exactly when it succeeds on every item. -/
theorem exists_mapM_eq_ok_iff (xs : List α) :
    (∃ ys, xs.mapM f = .ok ys) ↔ ∀ x ∈ xs, ∃ y, f x = .ok y := by
  induction xs with
  | nil => simp [pure, Except.pure]
  | cons x xs ih =>
    rw [List.mapM_cons, List.forall_mem_cons, ← ih]
    cases hx : f x with
    | error e => simp [bind, Except.bind]
    | ok y =>
      cases hxs : xs.mapM f with
      | error e => simp [bind, Except.bind]
      | ok ys => simp [bind, Except.bind, pure, Except.pure]

/-- A traversal that fails fails as one of its items does. -/
theorem exists_mem_of_mapM_eq_error {xs : List α} {e : ε} (h : xs.mapM f = .error e) :
    ∃ x ∈ xs, f x = .error e := by
  induction xs with
  | nil => simp [pure, Except.pure] at h
  | cons x xs ih =>
    rw [List.mapM_cons] at h
    cases hx : f x with
    | error e' =>
      simp only [hx, bind, Except.bind, Except.error.injEq] at h
      exact ⟨x, List.mem_cons_self, h ▸ hx⟩
    | ok y =>
      cases hxs : xs.mapM f with
      | error e' =>
        simp only [hx, hxs, bind, Except.bind, Except.error.injEq] at h
        obtain ⟨z, hz, hfz⟩ := ih (h ▸ hxs)
        exact ⟨z, List.mem_cons_of_mem x hz, hfz⟩
      | ok ys => simp [hx, hxs, bind, Except.bind, pure, Except.pure] at h

/-- A traversal whose items give what `g` gives gives the items mapped by `g`. -/
theorem mapM_eq_ok_map {g : α → β} {xs : List α} {ys : List β}
    (hf : ∀ x ∈ xs, ∀ y, f x = .ok y → y = g x) (h : xs.mapM f = .ok ys) : ys = xs.map g := by
  induction xs generalizing ys with
  | nil =>
    simp only [List.mapM_nil, pure, Except.pure, Except.ok.injEq] at h
    simp [h]
  | cons x xs ih =>
    rw [List.mapM_cons] at h
    cases hx : f x with
    | error e => simp [hx, bind, Except.bind] at h
    | ok y =>
      cases hxs : xs.mapM f with
      | error e => simp [hx, hxs, bind, Except.bind] at h
      | ok zs =>
        simp only [hx, hxs, bind, Except.bind, pure, Except.pure, Except.ok.injEq] at h
        rw [← h, hf x List.mem_cons_self y hx,
          ih (fun z hz => hf z (List.mem_cons_of_mem x hz)) hxs, List.map_cons]

end Traversal

namespace Datum

open Yaml.Heap (TextFailure scalarLevels scalarRepr scalarText joinItems)

/-! ### Levels and integers -/

theorem one_le_scalarLevels (d : Datum) : 1 ≤ scalarLevels d := by
  unfold scalarLevels
  split
  · split <;> omega
  · omega

theorem scalarLevels_le_three (d : Datum) : scalarLevels d ≤ 3 := by
  unfold scalarLevels
  split
  · split <;> omega
  · omega

theorem one_le_levels (d : Datum) : 1 ≤ d.levels := by
  cases d <;> simp only [levels] <;> first | omega | exact one_le_scalarLevels _

theorem levelsOfItems_le_iff (items : List Datum) (n : Nat) :
    levelsOfItems items ≤ n ↔ ∀ x ∈ items, x.levels ≤ n := by
  induction items with
  | nil => simp [levelsOfItems]
  | cons x rest ih => simp [levelsOfItems, ih]

theorem levelsOfEntries_le_iff (entries : List (Datum × Datum)) (n : Nat) :
    levelsOfEntries entries ≤ n ↔ ∀ e ∈ entries, e.1.levels ≤ n ∧ e.2.levels ≤ n := by
  induction entries with
  | nil => simp [levelsOfEntries]
  | cons e rest ih =>
    obtain ⟨k, v⟩ := e
    simp [levelsOfEntries, ih, and_assoc]

theorem itemsWritable_iff (items : List Datum) :
    itemsWritable items = true ↔ ∀ x ∈ items, x.intsWritable = true := by
  induction items with
  | nil => simp [itemsWritable]
  | cons x rest ih => simp [itemsWritable, ih]

theorem entriesWritable_iff (entries : List (Datum × Datum)) :
    entriesWritable entries = true ↔
      ∀ e ∈ entries, e.1.intsWritable = true ∧ e.2.intsWritable = true := by
  induction entries with
  | nil => simp [entriesWritable]
  | cons e rest ih =>
    obtain ⟨k, v⟩ := e
    simp [entriesWritable, ih, and_assoc]

/-! ### The source text -/

/-- An integer's text is written exactly when its decimal digits are few enough. -/
theorem scalarRepr_int (n : Int) :
    scalarRepr (.int n) =
      if (Datum.int n).intsWritable then .ok (Datum.int n).repr else .error .tooLong := by
  by_cases hn : Text.maxDigits < (Nat.toDigits 10 n.natAbs).length
  · simp [scalarRepr, intsWritable, hn]
  · simp [scalarRepr, intsWritable, hn]

/-- The source text of one entry of a mapping, as `reprWithin` writes it: its key and its
value, each with `room` levels. -/
def entryWithin (room : Nat) (e : Datum × Datum) : Except TextFailure String := do
  let kt ← reprWithin room e.1
  let vt ← reprWithin room e.2
  return kt ++ ": " ++ vt

theorem entryWithin_eq_ok_iff (room : Nat) (e : Datum × Datum) (s : String) :
    entryWithin room e = .ok s ↔
      ∃ kt vt, reprWithin room e.1 = .ok kt ∧ reprWithin room e.2 = .ok vt ∧
        s = kt ++ ": " ++ vt := by
  unfold entryWithin
  cases hk : reprWithin room e.1 with
  | error f => simp [bind, Except.bind]
  | ok kt =>
    cases hv : reprWithin room e.2 with
    | error f => simp [bind, Except.bind]
    | ok vt => simp [bind, Except.bind, pure, Except.pure, eq_comm]

theorem reprWithin_list (room : Nat) (items : List Datum) :
    reprWithin (room + 1) (.list items) =
      (items.mapM (reprWithin room)).map (fun parts => "[" ++ joinItems parts ++ "]") := by
  rw [reprWithin, bind_pure_comp]
  rfl

theorem reprWithin_mapping (room : Nat) (entries : List (Datum × Datum)) :
    reprWithin (room + 1) (.mapping entries) =
      (entries.mapM (entryWithin room)).map (fun parts => "\x7b" ++ joinItems parts ++ "\x7d") := by
  rw [reprWithin, bind_pure_comp]
  rfl

theorem exists_map_eq_ok_iff {x : Except TextFailure (List String)} {g : List String → String} :
    (∃ s, x.map g = .ok s) ↔ ∃ ys, x = .ok ys := by
  cases x <;> simp [Except.map]

/-- A value's source text is written exactly when the value nests within the room and every
integer it holds can be written in decimal. -/
theorem reprWithin_ok_iff (room : Nat) (d : Datum) :
    (∃ s, d.reprWithin room = .ok s) ↔ d.levels ≤ room ∧ d.intsWritable = true := by
  induction room generalizing d with
  | zero =>
    -- with no room nothing is written, and every value takes a level
    have := one_le_levels d
    simp only [reprWithin, reduceCtorEq, exists_false, false_iff, not_and]
    omega
  | succ room ih =>
    cases d with
    | list items =>
      rw [reprWithin_list, exists_map_eq_ok_iff, exists_mapM_eq_ok_iff]
      simp only [ih, levels, intsWritable, Nat.add_le_add_iff_right, levelsOfItems_le_iff,
        itemsWritable_iff]
      exact ⟨fun h => ⟨fun x hx => (h x hx).1, fun x hx => (h x hx).2⟩,
        fun h x hx => ⟨h.1 x hx, h.2 x hx⟩⟩
    | mapping entries =>
      rw [reprWithin_mapping, exists_map_eq_ok_iff, exists_mapM_eq_ok_iff]
      simp only [entryWithin_eq_ok_iff, levels, intsWritable, Nat.add_le_add_iff_right,
        levelsOfEntries_le_iff, entriesWritable_iff]
      constructor
      · intro h
        -- each entry's key and value are written, so each nests within the room
        have hkv : ∀ e ∈ entries, (e.1.levels ≤ room ∧ e.1.intsWritable = true) ∧
            (e.2.levels ≤ room ∧ e.2.intsWritable = true) := by
          intro e he
          obtain ⟨-, kt, vt, hk, hv, -⟩ := h e he
          exact ⟨(ih e.1).mp ⟨kt, hk⟩, (ih e.2).mp ⟨vt, hv⟩⟩
        exact ⟨fun e he => ⟨(hkv e he).1.1, (hkv e he).2.1⟩,
          fun e he => ⟨(hkv e he).1.2, (hkv e he).2.2⟩⟩
      · intro h e he
        obtain ⟨kt, hk⟩ := (ih e.1).mpr ⟨(h.1 e he).1, (h.2 e he).1⟩
        obtain ⟨vt, hv⟩ := (ih e.2).mpr ⟨(h.1 e he).2, (h.2 e he).2⟩
        exact ⟨_, kt, vt, hk, hv, rfl⟩
    | int n =>
      cases hw : (Datum.int n).intsWritable <;>
        simp [reprWithin, scalarLevels, scalarRepr_int, levels, hw]
    | stamp t =>
      by_cases hl : scalarLevels (.stamp t) ≤ room + 1 <;>
        simp [reprWithin, scalarRepr, levels, intsWritable, hl]
    | _ => simp [reprWithin, scalarLevels, scalarRepr, levels, intsWritable]

theorem le_levelsOfItems {items : List Datum} {x : Datum} (hx : x ∈ items) :
    x.levels ≤ levelsOfItems items :=
  (levelsOfItems_le_iff items _).mp le_rfl x hx

theorem le_levelsOfEntries {entries : List (Datum × Datum)} {e : Datum × Datum}
    (he : e ∈ entries) : e.1.levels ≤ levelsOfEntries entries ∧ e.2.levels ≤ levelsOfEntries entries :=
  (levelsOfEntries_le_iff entries _).mp le_rfl e he

/-- An entry that cannot be written fails as its key or its value does. -/
theorem entryWithin_eq_error {room : Nat} {e : Datum × Datum} {f : TextFailure}
    (h : entryWithin room e = .error f) :
    reprWithin room e.1 = .error f ∨ reprWithin room e.2 = .error f := by
  unfold entryWithin at h
  cases hk : reprWithin room e.1 with
  | error f' =>
    simp only [hk, bind, Except.bind, Except.error.injEq] at h
    exact .inl (h ▸ rfl)
  | ok kt =>
    cases hv : reprWithin room e.2 with
    | error f' =>
      simp only [hk, hv, bind, Except.bind, Except.error.injEq] at h
      exact .inr (h ▸ rfl)
    | ok vt => simp [hk, hv, bind, Except.bind, pure, Except.pure] at h

/-- A failure to write a value's source text names what the value lacks: an integer too long
for decimal is one the value holds, and a nesting too deep is one deeper than the room. -/
theorem reprWithin_error {room : Nat} {d : Datum} {e : TextFailure}
    (h : d.reprWithin room = .error e) :
    (e = .tooLong ∧ d.intsWritable = false) ∨ (e = .tooDeep ∧ room < d.levels) := by
  induction room generalizing d with
  | zero =>
    simp only [reprWithin, Except.error.injEq] at h
    exact .inr ⟨h.symm, one_le_levels d⟩
  | succ room ih =>
    cases d with
    | list items =>
      rw [reprWithin_list] at h
      cases hm : items.mapM (reprWithin room) with
      | ok parts =>
        rw [hm] at h
        cases h
      | error e' =>
        simp only [hm, Except.map, Except.error.injEq] at h
        subst h
        -- the list fails as its first failing item does
        obtain ⟨x, hx, hxe⟩ := exists_mem_of_mapM_eq_error hm
        rcases ih hxe with ⟨rfl, hw⟩ | ⟨rfl, hl⟩
        · refine .inl ⟨rfl, ?_⟩
          rw [intsWritable, Bool.eq_false_iff, ne_eq, itemsWritable_iff]
          exact fun hall => absurd (hall x hx) (by simp [hw])
        · have := le_levelsOfItems hx
          exact .inr ⟨rfl, by simp only [levels]; omega⟩
    | mapping entries =>
      rw [reprWithin_mapping] at h
      cases hm : entries.mapM (entryWithin room) with
      | ok parts =>
        rw [hm] at h
        cases h
      | error e' =>
        simp only [hm, Except.map, Except.error.injEq] at h
        subst h
        -- the mapping fails as the key or the value of its first failing entry does
        obtain ⟨x, hx, hxe⟩ := exists_mem_of_mapM_eq_error hm
        have hlev := le_levelsOfEntries hx
        have hnot : ∀ y, (y = x.1 ∨ y = x.2) → y.intsWritable = false →
            entriesWritable entries = false := by
          intro y hy hw
          rw [Bool.eq_false_iff, ne_eq, entriesWritable_iff]
          intro hall
          rcases hy with rfl | rfl
          · simp [(hall x hx).1] at hw
          · simp [(hall x hx).2] at hw
        rcases entryWithin_eq_error hxe with hk | hv
        · rcases ih hk with ⟨rfl, hw⟩ | ⟨rfl, hl⟩
          · exact .inl ⟨rfl, by rw [intsWritable]; exact hnot _ (.inl rfl) hw⟩
          · exact .inr ⟨rfl, by simp only [levels]; omega⟩
        · rcases ih hv with ⟨rfl, hw⟩ | ⟨rfl, hl⟩
          · exact .inl ⟨rfl, by rw [intsWritable]; exact hnot _ (.inr rfl) hw⟩
          · exact .inr ⟨rfl, by simp only [levels]; omega⟩
    | int n =>
      cases hw : (Datum.int n).intsWritable <;>
        simp [reprWithin, scalarLevels, scalarRepr_int, hw] at h
      exact .inl ⟨h.symm, rfl⟩
    | stamp t =>
      by_cases hl : scalarLevels (.stamp t) ≤ room + 1
      · simp [reprWithin, scalarRepr, hl] at h
      · simp only [reprWithin, hl, if_false, Except.error.injEq] at h
        exact .inr ⟨h.symm, by simp only [levels]; omega⟩
    | _ => simp [reprWithin, scalarLevels, scalarRepr] at h

theorem reprItems_eq (items : List Datum) : reprItems items = joinItems (items.map repr) := by
  induction items with
  | nil => simp [reprItems, joinItems]
  | cons x rest ih =>
    cases rest with
    | nil => simp [reprItems, joinItems]
    | cons y rest => simp [reprItems, joinItems, ih, String.append_assoc]

theorem reprEntries_eq (entries : List (Datum × Datum)) :
    reprEntries entries = joinItems (entries.map (fun e => e.1.repr ++ ": " ++ e.2.repr)) := by
  induction entries with
  | nil => simp [reprEntries, joinItems]
  | cons x rest ih =>
    obtain ⟨k, v⟩ := x
    cases rest with
    | nil => simp [reprEntries, joinItems]
    | cons y rest => simp [reprEntries, joinItems, ih, String.append_assoc]

theorem scalarRepr_eq_ok {d : Datum} {s : String} (h : scalarRepr d = .ok s) : s = d.repr := by
  unfold scalarRepr at h
  split at h
  · split at h
    · cases h
    · exact (Except.ok.inj h).symm
  · exact (Except.ok.inj h).symm

/-- What is written of a value's source text is that text. -/
theorem reprWithin_eq_ok {room : Nat} {d : Datum} {s : String} (h : d.reprWithin room = .ok s) :
    s = d.repr := by
  induction room generalizing d s with
  | zero => simp [reprWithin] at h
  | succ room ih =>
    cases d with
    | list items =>
      rw [reprWithin_list] at h
      cases hm : items.mapM (reprWithin room) with
      | error e =>
        rw [hm] at h
        cases h
      | ok parts =>
        simp only [hm, Except.map, Except.ok.injEq] at h
        rw [← h, mapM_eq_ok_map (fun x _ y hy => ih hy) hm, repr, reprItems_eq]
    | mapping entries =>
      rw [reprWithin_mapping] at h
      cases hm : entries.mapM (entryWithin room) with
      | error e =>
        rw [hm] at h
        cases h
      | ok parts =>
        simp only [hm, Except.map, Except.ok.injEq] at h
        -- each entry is written as its key's and its value's source texts
        have hentry : ∀ e ∈ entries, ∀ y, entryWithin room e = .ok y →
            y = e.1.repr ++ ": " ++ e.2.repr := by
          intro e _ y hy
          obtain ⟨kt, vt, hk, hv, rfl⟩ := (entryWithin_eq_ok_iff room e y).mp hy
          rw [ih hk, ih hv]
        rw [← h, mapM_eq_ok_map hentry hm, repr, reprEntries_eq]
    | _ =>
      simp only [reprWithin] at h
      split at h
      · exact scalarRepr_eq_ok h
      · cases h

/-! ### The display text -/

/-- With room for any scalar, a value's display text is written exactly when the value nests
within the room and every integer it holds can be written in decimal. -/
theorem textWithin_ok_iff {room : Nat} (hroom : 3 ≤ room) (d : Datum) :
    (∃ s, d.textWithin room = .ok s) ↔ d.levels ≤ room ∧ d.intsWritable = true := by
  -- a scalar takes at most three levels, so it fits in the room
  have hfit : ∀ d, scalarLevels d ≤ room := fun d => (scalarLevels_le_three d).trans hroom
  cases d with
  | list items => exact reprWithin_ok_iff room _
  | mapping entries => exact reprWithin_ok_iff room _
  | int n =>
    cases hw : (Datum.int n).intsWritable <;>
      simp [textWithin, scalarText, scalarRepr_int, levels, scalarLevels, hw]
    omega
  | _ => simp [textWithin, scalarText, levels, intsWritable, hfit]

/-- A failure to write a value's display text names what the value lacks. -/
theorem textWithin_error {room : Nat} {d : Datum} {e : TextFailure}
    (h : d.textWithin room = .error e) :
    (e = .tooLong ∧ d.intsWritable = false) ∨ (e = .tooDeep ∧ room < d.levels) := by
  cases d with
  | list items => exact reprWithin_error h
  | mapping entries => exact reprWithin_error h
  | int n =>
    cases hw : (Datum.int n).intsWritable <;> simp [textWithin, scalarText, scalarRepr_int, hw] at h
    exact .inl ⟨h.symm, rfl⟩
  | _ => simp [textWithin, scalarText] at h

/-- What is written of a value's display text is that text. -/
theorem textWithin_eq_ok {room : Nat} {d : Datum} {s : String}
    (h : d.textWithin room = .ok s) : s = d.toText := by
  cases d with
  | list items => exact reprWithin_eq_ok h
  | mapping entries => exact reprWithin_eq_ok h
  | int n => exact scalarRepr_eq_ok h
  | _ => exact (Except.ok.inj h).symm

/-! ### Written with its faults -/

@[simp] theorem written_text (room : Nat) (s : String) : (Datum.text s).written room = .ok s :=
  rfl

theorem written_eq_ok_iff {room : Nat} {d : Datum} {s : String} :
    d.written room = .ok s ↔ d.textWithin room = .ok s := by
  unfold written
  cases d.textWithin room <;> simp [Except.mapError]

theorem written_eq_error_iff {room : Nat} {d : Datum} {f : Fault} :
    d.written room = .error f ↔ ∃ e, d.textWithin room = .error e ∧ f = e.fault := by
  unfold written
  cases d.textWithin room <;> simp [Except.mapError, eq_comm]

/-- With room for any scalar, a value is written exactly when it nests within the room and
every integer it holds can be written in decimal. -/
theorem written_ok_iff {room : Nat} (hroom : 3 ≤ room) (d : Datum) :
    (∃ s, d.written room = .ok s) ↔ d.levels ≤ room ∧ d.intsWritable = true := by
  simp only [written_eq_ok_iff]
  exact textWithin_ok_iff hroom d

/-- What is written of a value is its display text. -/
theorem written_eq_ok {room : Nat} {d : Datum} {s : String} (h : d.written room = .ok s) :
    s = d.toText :=
  textWithin_eq_ok (written_eq_ok_iff.mp h)

/-- Writing a value raises for an integer too long for decimal only if the value holds one, and
for a nesting too deep only if the value nests deeper than the room. -/
theorem written_error {room : Nat} {d : Datum} {f : Fault} (h : d.written room = .error f) :
    (f = .tooLongToWrite ∧ d.intsWritable = false) ∨ (f = .nestedTooDeep ∧ room < d.levels) := by
  obtain ⟨e, he, rfl⟩ := written_eq_error_iff.mp h
  rcases textWithin_error he with ⟨rfl, hw⟩ | ⟨rfl, hl⟩
  · exact .inl ⟨rfl, hw⟩
  · exact .inr ⟨rfl, hl⟩

end Datum

end LowPowerPayload
