import LowPowerPayload.Proofs.Catalog
/-!
# What a loaded catalog guarantees of its types

`Catalog.parse` checks each type's id and each field's encoding, divisor and name, and that no id
is declared twice. `TypeSpec.WellFormed` collects what these checks leave true of every type it
returns, in the terms the registry and the decoder need: the id is a byte, the type has fields,
their encodings are known, their divisors are nonzero numbers, and their names are given when
there are several and never repeated. `parse_wellFormed` derives it from the declarative reading
of the catalog, and `TypeSpec.WellFormed.one_le_byteWidth` shows that such a type takes at
least one byte.

One step needs care: a field's encoding is kept lowercased by the full Unicode rules, while
encodings are matched after ASCII lowering. An encoding's name is ASCII, and on ASCII text the
two lowerings agree (`Text.lower_of_ascii`), so the kept encoding still names the encoding that
was checked (`Encoding.ofName?_lower`).
-/

namespace LowPowerPayload

namespace Text

/-- ASCII lowering moves the capital letters 32 code points up and keeps every other
character. -/
theorem toNat_toLower (c : Char) :
    c.toLower.toNat = if 65 ≤ c.toNat ∧ c.toNat ≤ 90 then c.toNat + 32 else c.toNat := by
  unfold Char.toLower
  split
  · next h =>
    have h' : 65 ≤ c.toNat ∧ c.toNat ≤ 90 := by
      simpa [UInt32.le_iff_toNat_le, Char.toNat_val] using h
    rw [if_pos h']
    simp only [← Char.toNat_val, UInt32.toNat_add] at h' ⊢
    simp at h' ⊢
    omega
  · next h =>
    have h' : ¬ (65 ≤ c.toNat ∧ c.toNat ≤ 90) := by
      simpa [UInt32.le_iff_toNat_le, Char.toNat_val] using h
    rw [if_neg h']

theorem toLower_toLower (c : Char) : c.toLower.toLower = c.toLower := by
  apply Char.toNat_inj.mp
  rw [toNat_toLower c.toLower, toNat_toLower c]
  split_ifs <;> omega

private theorem lowerRuns_tail_start :
    (lowerRuns.tail.all fun r => decide (128 ≤ r.start)) = true := by
  decide +kernel

/-- On an ASCII character the Unicode lowercase form is the ASCII one. -/
theorem lowerChar_of_lt {c : Char} (h : c.toNat < 128) : lowerChar c = [c.toLower] := by
  -- only the first run, the capital ASCII letters, starts below 128
  have hnone : lowerRuns.tail.findSome? (fun r => r.apply c.toNat) = none := by
    rw [List.findSome?_eq_none_iff]
    intro r hr
    have hr' : 128 ≤ r.start := by simpa using List.all_eq_true.mp lowerRuns_tail_start r hr
    simp only [CaseRun.apply]
    rw [if_neg (by omega)]
  have hruns : lowerRuns = ⟨0x41, 26, 32, 1⟩ :: lowerRuns.tail := rfl
  have hfirst : (⟨0x41, 26, 32, 1⟩ : CaseRun).apply c.toNat =
      if 65 ≤ c.toNat ∧ c.toNat ≤ 90 then some c.toLower.toNat else none := by
    rw [toNat_toLower]
    simp only [CaseRun.apply, Nat.mod_one, and_true]
    by_cases hu : 65 ≤ c.toNat ∧ c.toNat ≤ 90
    · rw [if_pos (by omega), if_pos hu, if_pos hu]
      congr 1
    · rw [if_neg (by omega), if_neg hu]
  unfold lowerChar
  rw [if_neg (by omega), hruns, List.findSome?_cons, hfirst]
  by_cases hu : 65 ≤ c.toNat ∧ c.toNat ≤ 90
  · rw [if_pos hu]
    show [Char.ofNat c.toLower.toNat] = [c.toLower]
    rw [Char.ofNat_toNat]
  · rw [if_neg hu]
    simp only [hnone]
    have hl := toNat_toLower c
    rw [if_neg hu] at hl
    exact congrArg (· :: []) (Char.toNat_inj.mp hl).symm

/-- On ASCII text the Unicode lowering is the ASCII one, character by character. -/
theorem lower_of_ascii {s : String} (h : ∀ c ∈ s.toList, c.toNat < 128) :
    lower s = String.ofList (s.toList.map Char.toLower) := by
  -- the lowering keeps its output reversed; generalise over what it has read and written
  have hgo : ∀ (cs before acc : List Char), (∀ c ∈ cs, c.toNat < 128) →
      lower.go before acc cs = acc.reverse ++ cs.map Char.toLower := by
    intro cs
    induction cs with
    | nil => intro before acc _; simp [lower.go]
    | cons c rest ih =>
      intro before acc hcs
      have hc : c.toNat < 128 := hcs c List.mem_cons_self
      simp only [lower.go, if_neg (show c.toNat ≠ 0x3A3 by omega), lowerChar_of_lt hc]
      rw [ih _ _ (fun x hx => hcs x (List.mem_cons_of_mem _ hx))]
      simp
  simp [lower, hgo s.toList [] [] h]

end Text

/-- An encoding's name kept lowercased still names the encoding. -/
theorem Encoding.ofName?_lower {s : String} {e : Encoding} (h : Encoding.ofName? s = some e) :
    Encoding.ofName? (Text.lower s) = some e := by
  unfold Encoding.ofName? at h ⊢
  split at h
  · next hall =>
    have hasc : ∀ c ∈ s.toList, c.toNat < 128 := by simpa using hall
    -- lowering keeps the text ASCII, and lowering it again changes nothing
    have hlow : ∀ c ∈ s.toList, c.toLower.toNat < 128 := by
      intro c hc
      have := hasc c hc
      rw [Text.toNat_toLower]
      split_ifs <;> omega
    have hagain : (s.toList.map Char.toLower).map Char.toLower = s.toList.map Char.toLower := by
      rw [List.map_map]
      exact List.map_congr_left (fun c _ => Text.toLower_toLower c)
    rw [Text.lower_of_ascii hasc, String.toList_ofList, if_pos (by simpa using hlow), hagain]
    exact h
  · cases h

theorem Encoding.one_le_size (e : Encoding) : 1 ≤ e.size := by
  cases e <;> decide

/-- A field of a known encoding takes that encoding's size. -/
theorem Field.size_of_ofName? {f : Field} {e : Encoding} (h : Encoding.ofName? f.encode = some e) :
    f.size = .ok e.size := by
  simp [Field.size, Encoding.named, h, Except.map]

/-- What the loader guarantees of every type it reads: the id is a byte, the type has fields,
their encodings are known, their divisors are nonzero numbers, and their names are given when
there are several and never repeated. -/
structure TypeSpec.WellFormed (s : TypeSpec) : Prop where
  typeId_le : s.typeId ≤ 255
  fields_ne_nil : s.fields ≠ []
  encode_known : ∀ f ∈ s.fields, (Encoding.ofName? f.encode).isSome
  divisor_nonzero : ∀ f ∈ s.fields, Catalog.isDivisor f.divisor = true
  named : Catalog.FieldsNamed s.fields
  names_nodup : (s.fields.map Field.name).Nodup

instance (s : TypeSpec) : Decidable s.WellFormed :=
  decidable_of_iff (s.typeId ≤ 255 ∧ s.fields ≠ [] ∧
      (∀ f ∈ s.fields, (Encoding.ofName? f.encode).isSome) ∧
      (∀ f ∈ s.fields, Catalog.isDivisor f.divisor = true) ∧
      (1 < s.fields.length → ∀ f ∈ s.fields, f.name.isSome) ∧ (s.fields.map Field.name).Nodup)
    ⟨fun ⟨h1, h2, h3, h4, h5, h6⟩ => ⟨h1, h2, h3, h4, h5, h6⟩,
      fun h => ⟨h.1, h.2, h.3, h.4, h.5, h.6⟩⟩

/-- A well-formed type takes at least one byte: it has a field, and every encoding takes at least
one. -/
theorem TypeSpec.WellFormed.one_le_byteWidth {s : TypeSpec} (h : s.WellFormed) :
    1 ≤ s.byteWidth := by
  obtain ⟨f, rest, hfs⟩ := List.exists_cons_of_ne_nil h.fields_ne_nil
  obtain ⟨e, he⟩ := Option.isSome_iff_exists.mp (h.encode_known f (by simp [hfs]))
  have hsize := Encoding.one_le_size e
  simp only [TypeSpec.byteWidth, hfs, List.foldr_cons, Field.size_of_ofName? he, Except.toOption,
    Option.getD_some]
  omega

namespace Catalog

open Yaml (Heap)

private theorem exists_of_forall₂ {α β : Type} {R : α → β → Prop} {l₁ : List α} {l₂ : List β}
    (h : List.Forall₂ R l₁ l₂) {b : β} (hb : b ∈ l₂) : ∃ a ∈ l₁, R a b := by
  induction h with
  | nil => cases hb
  | cons hab _ ih =>
    rcases List.mem_cons.mp hb with rfl | hb
    · exact ⟨_, List.mem_cons_self, hab⟩
    · obtain ⟨a, ha, hr⟩ := ih hb
      exact ⟨a, List.mem_cons_of_mem _ ha, hr⟩

/-- A key read as a type id gives an id of at most 255: every way of reading it ends in the range
check. -/
theorem typeId_le {raw : Datum} {t : Nat} (h : typeId raw = .ok t) : t ≤ 255 := by
  unfold typeId at h
  cases raw <;>
    simp only [bind, Except.bind, pure, Except.pure, throw, throwThe, MonadExceptOf.throw] at h <;>
    repeat' split at h
  all_goals first
    | (cases h; omega)
    | cases h

variable {h : Heap} {info : Nat}

/-- A field's mapping that reads as `f` gives a known encoding. -/
theorem FieldReads.encode_known {f : Field} (hf : FieldReads h info f) :
    (Encoding.ofName? f.encode).isSome := by
  obtain ⟨text, ⟨_, -, -, hsome⟩, henc⟩ := hf.encode
  obtain ⟨e, he⟩ := Option.isSome_iff_exists.mp hsome
  rw [henc, Encoding.ofName?_lower he]
  rfl

/-- An entry that reads as a type gives a well-formed type. -/
theorem EntryReads.wellFormed {raw : Nat} {s : TypeSpec} (hs : EntryReads h raw info s) :
    s.WellFormed := by
  obtain ⟨n, items, hd, hr, hnamed, hnd, -⟩ := hs
  refine ⟨typeId_le hd.id, ?_, fun f hf => ?_, fun f hf => ?_, hnamed, hnd⟩
  · -- the fields are read one for one from a non-empty list of items
    intro hnil
    have hlen := hr.length_eq
    rw [hnil, List.length_nil, List.length_eq_zero_iff] at hlen
    exact hd.nonempty hlen
  · obtain ⟨item, -, hfr⟩ := exists_of_forall₂ hr hf
    exact hfr.encode_known
  · obtain ⟨item, -, hfr⟩ := exists_of_forall₂ hr hf
    exact hfr.divisor.2

/-- Every type a catalog text reads as is well formed, and no two have the same id. -/
theorem parse_wellFormed {name text : String} {specs : List TypeSpec}
    (hp : parse name text = .ok specs) :
    (∀ s ∈ specs, s.WellFormed) ∧ (specs.map TypeSpec.typeId).Nodup := by
  obtain ⟨doc, hload⟩ := parse_loads hp
  obtain ⟨entries, -, hr, hnd⟩ := (parse_eq_ok_iff hload specs).mp hp
  refine ⟨fun s hs => ?_, hnd⟩
  obtain ⟨p, -, hps⟩ := exists_of_forall₂ hr hs
  exact hps.wellFormed

/-- A catalog that loads is a file whose bytes spell a text, and that text reads as its
types. -/
theorem load_eq_ok {path : String} {entry : PathEntry} {specs : List TypeSpec}
    (hl : (Catalog.load path entry).specs = .ok specs) :
    ∃ bytes text, entry = .file bytes ∧ textOf bytes = .ok text ∧
      parse (fileName path) text = .ok specs := by
  cases entry with
  | absent => cases hl
  | directory => cases hl
  | denied => cases hl
  | file bytes =>
    simp only [Catalog.load, read] at hl
    split at hl
    · next text htext => exact ⟨bytes, text, rfl, htext, hl⟩
    · cases hl

/-- A catalog that loads is a file whose text reads as well-formed types with distinct ids. -/
theorem load_wellFormed {path : String} {entry : PathEntry} {specs : List TypeSpec}
    (hl : (Catalog.load path entry).specs = .ok specs) :
    (∀ s ∈ specs, s.WellFormed) ∧ (specs.map TypeSpec.typeId).Nodup := by
  obtain ⟨_, _, -, -, hp⟩ := load_eq_ok hl
  exact parse_wellFormed hp

end Catalog

end LowPowerPayload
