import Mathlib
import LowPowerPayload.Catalog
import LowPowerPayload.Proofs.Double
/-!
# What a catalog declares, and the first issue it has

A catalog's `types` mapping is read entry by entry, and each entry's fields one by one. This
module says declaratively what a reading is and which check fails first:

* `FieldReads h info f`: the mapping `info` reads as the field `f`; `FieldIssue` names the first
  check a field fails, one constructor per check in the order the fields are checked;
* `EntryReads h raw info s`: the entry with key `raw` and value `info` reads as the type `s`;
  `EntryIssue` names its first failing check, a failing field being the first that fails;
* `Declares doc specs` and `FirstIssue doc name e` for a whole document.

Each level is tied to the reader by three lemmas: a reading gives the value, an issue gives the
error, and one of the two always holds. `outcome_iff` turns the three into exact
characterisations, so `parse_eq_iff_declares_or_firstIssue` says that `parse` returns exactly
the declared types and fails exactly with the first issue. Every issue but two is a wrong
declaration: an infinite number as a type id and a name nested too deep end the load as they are.
-/

namespace LowPowerPayload

namespace Catalog

open Yaml (Heap)

/-- A computation that gives `a` whenever `ok a` holds and fails with `e` whenever `fails e`
holds, where one of the two always holds, gives exactly the values `ok` describes and fails
exactly with the errors `fails` describes. -/
theorem outcome_iff {ε α : Type} {x : Except ε α} {ok : α → Prop} {fails : ε → Prop}
    (hok : ∀ a, ok a → x = .ok a) (hfails : ∀ e, fails e → x = .error e)
    (hcases : (∃ a, ok a) ∨ ∃ e, fails e) :
    (∀ a, x = .ok a ↔ ok a) ∧ ∀ e, x = .error e ↔ fails e := by
  refine ⟨fun a => ⟨fun hx => ?_, hok a⟩, fun e => ⟨fun hx => ?_, hfails e⟩⟩
  -- the outcome is the one of the case that holds
  · rcases hcases with ⟨b, hb⟩ | ⟨f, hf⟩
    · rw [hok b hb] at hx; cases hx; exact hb
    · rw [hfails f hf] at hx; cases hx
  · rcases hcases with ⟨b, hb⟩ | ⟨f, hf⟩
    · rw [hok b hb] at hx; cases hx
    · rw [hfails f hf] at hx; cases hx; exact hf

/-! ### Texts and type ids -/

/-- Writing a value fails only for an integer too long or collections nested too deep. -/
theorem written_error {h : Heap} {room i : Nat} {e : CatalogIssue}
    (hw : written h room i = .error e) : e = .unwritable ∨ e = .nestedTooDeep := by
  unfold written at hw
  split at hw
  · cases hw
  · cases hw; exact .inl rfl
  · cases hw; exact .inr rfl

/-- A key that is no type id is an invalid one, an infinite number, or an id out of range. -/
theorem typeId_error {raw : Datum} {e : CatalogIssue} (he : typeId raw = .error e) :
    e = .invalidId raw ∨ e = .infiniteId ∨ ∃ n, e = .idOutOfRange n := by
  unfold typeId at he
  cases raw <;>
    simp only [bind, Except.bind, pure, Except.pure, throw, throwThe, MonadExceptOf.throw] at he <;>
    repeat' split at he
  all_goals first
    | (cases he; exact .inl rfl)
    | (cases he; exact .inr (.inl rfl))
    | (cases he; exact .inr (.inr ⟨_, rfl⟩))
    | cases he

/-- A key converts to no id by overflow exactly when it is an infinite number. -/
theorem typeId_eq_error_infiniteId_iff (raw : Datum) :
    typeId raw = .error .infiniteId ↔
      ∃ x, raw = .float x ∧ x.isNaN = false ∧ Decimal.truncate? x = none := by
  constructor
  · intro he
    unfold typeId at he
    simp only [bind, Except.bind, pure, Except.pure, throw, throwThe, MonadExceptOf.throw] at he
    split at he
    case h_5 x =>
      refine ⟨x, rfl, ?_⟩
      split at he
      · cases he
      · next hn =>
        split at he
        · split at he <;> cases he
        · next ht => exact ⟨by simpa using hn, ht⟩
    all_goals repeat' split at he
    all_goals cases he
  · rintro ⟨x, rfl, hn, ht⟩
    unfold typeId
    simp only [hn, ht, Bool.false_eq_true, if_false, bind, Except.bind, throw, throwThe,
      MonadExceptOf.throw]

/-- A mapping that has a value under a key is not empty, so it counts as true. -/
theorem truthy_of_lookup? {h : Heap} {i v : Nat} {key : String} (hv : h.lookup? i key = some v) :
    h.truthy i = true := by
  unfold Heap.lookup? at hv
  split at hv
  · next entries hi =>
    obtain ⟨p, hp, -⟩ := Option.map_eq_some_iff.mp hv
    have hne : entries ≠ [] := by
      rintro rfl
      simp at hp
    simp [Heap.truthy, hi, hne]
  · cases hv

/-! ### Fields -/

/-- A mapping value holds a value that counts as true under a key. -/
def HasTrue (h : Heap) (i : Nat) (key : String) (v : Nat) : Prop :=
  h.lookup? i key = some v ∧ h.truthy v = true

/-- A value is a mapping. -/
def IsMapping (h : Heap) (i : Nat) : Prop := ∃ entries, h.get i = .dict entries

/-- A field's `encode` is true and written as the text of a known encoding. -/
def EncodeReads (h : Heap) (info : Nat) (text : String) : Prop :=
  ∃ e, HasTrue h info "encode" e ∧ written h fieldRoom e = .ok text ∧
    (Encoding.ofName? text).isSome

/-- A field's divisor is a nonzero number: the scalar under `divisor`, or one when there is none. -/
def DivisorReads (h : Heap) (info : Nat) (d : Datum) : Prop :=
  (h.lookup? info "divisor" = none ∧ d = .int 1 ∨
    ∃ v, h.lookup? info "divisor" = some v ∧ h.get v = .scalar d) ∧ isDivisor d = true

/-- A field's name: none when it gives none or a null, and else the text of its value. -/
def NameReads (h : Heap) (info : Nat) (name : Option String) : Prop :=
  (∀ v, h.lookup? info "name" = some v → h.get v = .scalar .null) ∧ name = none ∨
    ∃ v s, h.lookup? info "name" = some v ∧ h.get v ≠ .scalar .null ∧
      written h fieldRoom v = .ok s ∧ name = some s

/-- A field's mapping reads as the field `f`: its encoding kept in lower case, its divisor and
its name. -/
structure FieldReads (h : Heap) (info : Nat) (f : Field) : Prop where
  mapping : IsMapping h info
  encode : ∃ text, EncodeReads h info text ∧ f.encode = Text.lower text
  divisor : DivisorReads h info f.divisor
  name : NameReads h info f.name

/-- The first check the `i`-th field of type `t` fails, and the issue it raises: the checks
come in the order the constructors list them, each after the ones before have passed. -/
inductive FieldIssue (h : Heap) (t i info : Nat) : CatalogIssue → Prop
  | notMapping : ¬ IsMapping h info → FieldIssue h t i info (.fieldNotMapping t i)
  | noEncode : IsMapping h info → (∀ e, ¬ HasTrue h info "encode" e) →
      FieldIssue h t i info (.missingEncode t i)
  | encodeText {e x} : IsMapping h info → HasTrue h info "encode" e →
      written h fieldRoom e = .error x → FieldIssue h t i info x
  | unknownEncode {e text} : IsMapping h info → HasTrue h info "encode" e →
      written h fieldRoom e = .ok text → Encoding.ofName? text = none →
      FieldIssue h t i info (.unknownEncode t i text)
  | badDivisor {text} : IsMapping h info → EncodeReads h info text →
      (∀ d, ¬ DivisorReads h info d) → FieldIssue h t i info (.badDivisor t i)
  | nameText {text d v x} : IsMapping h info → EncodeReads h info text → DivisorReads h info d →
      h.lookup? info "name" = some v → h.get v ≠ .scalar .null →
      written h fieldRoom v = .error x → FieldIssue h t i info x

variable {h : Heap} {t i info : Nat}

/-- A field's name reads, or it is not null and cannot be written. -/
theorem nameReads_or_error (h : Heap) (info : Nat) :
    (∃ name, NameReads h info name) ∨
      ∃ v x, h.lookup? info "name" = some v ∧ h.get v ≠ .scalar .null ∧
        written h fieldRoom v = .error x := by
  cases hn : h.lookup? info "name" with
  | none => exact .inl ⟨none, .inl ⟨fun v hv => by simp [hn] at hv, rfl⟩⟩
  | some v =>
    by_cases hnull : h.get v = .scalar .null
    · exact .inl ⟨none, .inl ⟨fun w hw => by simp_all, rfl⟩⟩
    · cases hw : written h fieldRoom v with
      | ok s => exact .inl ⟨some s, .inr ⟨v, s, hn, hnull, hw, rfl⟩⟩
      | error x => exact .inr ⟨v, x, rfl, hnull, hw⟩

/-- Every field's mapping reads as a field or fails a check. -/
theorem fieldReads_or_issue (h : Heap) (t i info : Nat) :
    (∃ f, FieldReads h info f) ∨ ∃ e, FieldIssue h t i info e := by
  by_cases hm : IsMapping h info
  swap
  · exact .inr ⟨_, .notMapping hm⟩
  by_cases he : ∃ e, HasTrue h info "encode" e
  swap
  · exact .inr ⟨_, .noEncode hm (fun e he' => he ⟨e, he'⟩)⟩
  obtain ⟨e, he⟩ := he
  cases hw : written h fieldRoom e with
  | error x => exact .inr ⟨_, .encodeText hm he hw⟩
  | ok text =>
    cases ho : Encoding.ofName? text with
    | none => exact .inr ⟨_, .unknownEncode hm he hw ho⟩
    | some enc =>
      have hread : EncodeReads h info text := ⟨e, he, hw, by simp [ho]⟩
      by_cases hd : ∃ d, DivisorReads h info d
      swap
      · exact .inr ⟨_, .badDivisor hm hread (fun d hd' => hd ⟨d, hd'⟩)⟩
      obtain ⟨d, hd⟩ := hd
      rcases nameReads_or_error h info with ⟨name, hname⟩ | ⟨v, x, hv, hne, hx⟩
      · exact .inl ⟨⟨name, Text.lower text, d⟩, hm, ⟨text, hread, rfl⟩, hd, hname⟩
      · exact .inr ⟨_, .nameText hm hread hd hv hne hx⟩

/-- The divisor the reader takes from a field's mapping is the one it gives. -/
theorem divisor_match_eq_some_iff {d : Datum} :
    (match h.lookup? info "divisor" with
      | some v => h.scalar? v
      | none => some (.int 1)) = some d ↔
    h.lookup? info "divisor" = none ∧ d = .int 1 ∨
      ∃ v, h.lookup? info "divisor" = some v ∧ h.get v = .scalar d := by
  cases hl : h.lookup? info "divisor" with
  | none => simp [eq_comm]
  | some v =>
    simp only [Heap.scalar?, reduceCtorEq, false_and, Option.some.injEq, exists_eq_left', false_or]
    split <;> simp_all

/-- A field's mapping gives one divisor at most. -/
theorem divisor_given_unique {d d' : Datum}
    (hd : h.lookup? info "divisor" = none ∧ d = .int 1 ∨
      ∃ v, h.lookup? info "divisor" = some v ∧ h.get v = .scalar d)
    (hd' : h.lookup? info "divisor" = none ∧ d' = .int 1 ∨
      ∃ v, h.lookup? info "divisor" = some v ∧ h.get v = .scalar d') : d = d' := by
  rcases hd with ⟨hl, rfl⟩ | ⟨v, hl, hv⟩ <;> rcases hd' with ⟨hl', rfl⟩ | ⟨v', hl', hv'⟩
  · rfl
  · simp [hl] at hl'
  · simp [hl] at hl'
  · rw [hl] at hl'
    cases hl'
    rw [hv] at hv'
    cases hv'
    rfl

/-- A field's mapping that reads as `f` is read as `f`. -/
theorem field_of_reads {f : Field} (hf : FieldReads h info f) (t i : Nat) :
    field h t i info = .ok f := by
  obtain ⟨⟨es, hmap⟩, ⟨text, ⟨e, ⟨he, htrue⟩, htext, hknown⟩, hencode⟩, ⟨hdiv, hnz⟩, hname⟩ :=
    hf
  obtain ⟨enc, henc⟩ := Option.isSome_iff_exists.mp hknown
  obtain ⟨name, encode, d⟩ := f
  simp only at hencode hnz hdiv hname
  subst hencode
  simp only [field, hmap, he, htrue, htext, henc, Bool.not_true, Bool.false_eq_true, if_false,
    Option.isNone_some, bind, Except.bind]
  split
  · next d' hd' =>
    have hd : d' = d := divisor_given_unique (divisor_match_eq_some_iff.mp hd') hdiv
    subst hd
    simp only [hnz, Bool.not_true, Bool.false_eq_true, if_false]
    rcases hname with ⟨hnull, rfl⟩ | ⟨v, s, hv, hne, hs, rfl⟩
    · cases hv : h.lookup? info "name" with
      | none => rfl
      | some v => simp [hnull v hv, pure, Except.pure]
    · -- the name is not null, so its written text is taken
      simp only [hv, hs, Functor.map, Except.map]
      rfl
  · next hnone => exact absurd (divisor_match_eq_some_iff.mpr hdiv) (hnone d)

/-- A field's mapping that fails a check fails with that check's issue. -/
theorem field_of_issue {e : CatalogIssue} (hi : FieldIssue h t i info e) :
    field h t i info = .error e := by
  cases hi with
  | notMapping hm =>
    unfold field
    split
    · next es hg => exact absurd ⟨es, hg⟩ hm
    · rfl
  | noEncode hm he =>
    obtain ⟨es, hg⟩ := hm
    cases hl : h.lookup? info "encode" with
    | none => simp [field, hg, hl, throw, throwThe, MonadExceptOf.throw]
    | some v =>
      have hf : h.truthy v = false := by simpa [HasTrue, hl] using he v
      simp [field, hg, hl, hf, bind, Except.bind, throw, throwThe, MonadExceptOf.throw]
  | encodeText hm he hw =>
    obtain ⟨⟨es, hg⟩, ⟨hl, ht⟩⟩ := And.intro hm he
    simp [field, hg, hl, ht, hw, bind, Except.bind]
  | unknownEncode hm he hw ho =>
    obtain ⟨⟨es, hg⟩, ⟨hl, ht⟩⟩ := And.intro hm he
    simp [field, hg, hl, ht, hw, ho, bind, Except.bind, throw, throwThe, MonadExceptOf.throw]
  | badDivisor hm hr hd =>
    obtain ⟨⟨es, hg⟩, ⟨v, ⟨hl, ht⟩, hw, hknown⟩⟩ := And.intro hm hr
    obtain ⟨enc, henc⟩ := Option.isSome_iff_exists.mp hknown
    simp only [field, hg, hl, ht, hw, henc, Bool.not_true, Bool.false_eq_true, if_false,
      Option.isNone_some, bind, Except.bind]
    split
    · next d hd' =>
      -- the mapping gives this divisor, so it is zero or no number
      have hz : isDivisor d = false := by
        simpa using fun hnz => hd d ⟨divisor_match_eq_some_iff.mp hd', hnz⟩
      simp [hz, throw, throwThe, MonadExceptOf.throw]
    · rfl
  | @nameText _ d _ _ hm hr hd hv hne hx =>
    obtain ⟨⟨es, hg⟩, ⟨w, ⟨hl, ht⟩, hw, hknown⟩⟩ := And.intro hm hr
    obtain ⟨enc, henc⟩ := Option.isSome_iff_exists.mp hknown
    obtain ⟨hdiv, hnz⟩ := hd
    simp only [field, hg, hl, ht, hw, henc, Bool.not_true, Bool.false_eq_true, if_false,
      Option.isNone_some, bind, Except.bind]
    split
    · next d' hd' =>
      have hd : d' = d := divisor_given_unique (divisor_match_eq_some_iff.mp hd') hdiv
      subst hd
      -- the name is not null, so writing it is what fails
      simp only [hnz, Bool.not_true, Bool.false_eq_true, if_false, hv, hx, Functor.map,
        Except.map]
    · next hnone => exact absurd (divisor_match_eq_some_iff.mpr hdiv) (hnone d)

/-! ### A type's fields -/

/-- The first item of a field list, counted from index `i`, that fails a check: the items before
it read as fields. -/
def FieldsIssue (h : Heap) (t i : Nat) (items : List Nat) (e : CatalogIssue) : Prop :=
  ∃ pre info post fs, items = pre ++ info :: post ∧ List.Forall₂ (FieldReads h) pre fs ∧
    FieldIssue h t (i + pre.length) info e

/-- Items that read as fields are read as those fields. -/
theorem fields_of_reads {items : List Nat} {fs : List Field}
    (hr : List.Forall₂ (FieldReads h) items fs) (t i : Nat) : fields h t i items = .ok fs := by
  induction hr generalizing i with
  | nil => rfl
  | cons hf _ ih => simp [fields, field_of_reads hf, ih, bind, Except.bind, pure, Except.pure]

/-- A field list fails with the issue of its first failing item. -/
theorem fields_of_issue {items : List Nat} {e : CatalogIssue} (hi : FieldsIssue h t i items e) :
    fields h t i items = .error e := by
  obtain ⟨pre, info, post, fs, rfl, hpre, hinfo⟩ := hi
  induction hpre generalizing i with
  | nil =>
    rw [List.length_nil, Nat.add_zero] at hinfo
    simp [fields, field_of_issue hinfo, bind, Except.bind]
  | @cons x f rest gs hf _ ih =>
    -- the failing item is one place further on from the next index
    have hnext : FieldIssue h t (i + 1 + rest.length) info e := by
      simpa [Nat.add_assoc, Nat.add_comm 1] using hinfo
    simp [fields, field_of_reads hf, ih hnext, bind, Except.bind]

/-- Every item list reads as fields or has a first failing item. -/
theorem fieldsRead_or_issue (h : Heap) (t : Nat) (items : List Nat) (i : Nat) :
    (∃ fs, List.Forall₂ (FieldReads h) items fs) ∨ ∃ e, FieldsIssue h t i items e := by
  induction items generalizing i with
  | nil => exact .inl ⟨[], .nil⟩
  | cons info rest ih =>
    rcases fieldReads_or_issue h t i info with ⟨f, hf⟩ | ⟨e, he⟩
    · rcases ih (i + 1) with ⟨fs, hfs⟩ | ⟨e, pre, x, post, gs, rfl, hpre, hx⟩
      · exact .inl ⟨f :: fs, .cons hf hfs⟩
      · refine .inr ⟨e, info :: pre, x, post, f :: gs, rfl, .cons hf hpre, ?_⟩
        simpa [Nat.add_assoc, Nat.add_comm 1] using hx
    · exact .inr ⟨e, [], info, rest, [], rfl, .nil, by simpa using he⟩

/-! ### Entries of the types mapping -/

/-- The items of the list under a mapping's `fields`. -/
def FieldItems (h : Heap) (info : Nat) (items : List Nat) : Prop :=
  ∃ v, h.lookup? info "fields" = some v ∧ h.get v = .list items

/-- A list of fields names every field when there are several. -/
def FieldsNamed (fs : List Field) : Prop := 1 < fs.length → ∀ f ∈ fs, f.name.isSome

/-- An entry up to its fields: its key converts to the id `t`, and its value is a mapping with a
true name `n` and a non-empty list of field items. -/
structure EntryHead (h : Heap) (raw info t n : Nat) (items : List Nat) : Prop where
  id : typeId ((h.scalar? raw).getD .null) = .ok t
  mapping : IsMapping h info
  name : HasTrue h info "name" n
  fields : FieldItems h info items
  nonempty : items ≠ []

/-- An entry of the types mapping reads as the type `s`: its items read as `s`'s fields, which
name every field when there are several and no name twice, and its name is written as `s`'s. -/
def EntryReads (h : Heap) (raw info : Nat) (s : TypeSpec) : Prop :=
  ∃ n items, EntryHead h raw info s.typeId n items ∧ List.Forall₂ (FieldReads h) items s.fields ∧
    FieldsNamed s.fields ∧ (s.fields.map Field.name).Nodup ∧ written h nameRoom n = .ok s.name

/-- The first check an entry fails, and the issue it raises: the checks come in the order the
constructors list them, each after the ones before have passed. -/
inductive EntryIssue (h : Heap) (raw info : Nat) : CatalogIssue → Prop
  | id {e} : typeId ((h.scalar? raw).getD .null) = .error e → EntryIssue h raw info e
  | notMapping {t : Nat} : typeId ((h.scalar? raw).getD .null) = .ok t → ¬ IsMapping h info →
      EntryIssue h raw info (.entryNotMapping t)
  | noName {t : Nat} : typeId ((h.scalar? raw).getD .null) = .ok t → IsMapping h info →
      (∀ n, ¬ HasTrue h info "name" n) → EntryIssue h raw info (.missingName t)
  | noFields {t n : Nat} : typeId ((h.scalar? raw).getD .null) = .ok t → IsMapping h info →
      HasTrue h info "name" n → (∀ items, FieldItems h info items → items = []) →
      EntryIssue h raw info (.fieldsNotList t)
  | field {t n : Nat} {items e} : EntryHead h raw info t n items → FieldsIssue h t 0 items e →
      EntryIssue h raw info e
  | unnamed {t n : Nat} {items fs} : EntryHead h raw info t n items →
      List.Forall₂ (FieldReads h) items fs → ¬ FieldsNamed fs →
      EntryIssue h raw info (.unnamedFields t)
  | duplicate {t n : Nat} {items fs} : EntryHead h raw info t n items →
      List.Forall₂ (FieldReads h) items fs → FieldsNamed fs → ¬ (fs.map Field.name).Nodup →
      EntryIssue h raw info (.duplicateNames t)
  | nameText {t n : Nat} {items fs e} : EntryHead h raw info t n items →
      List.Forall₂ (FieldReads h) items fs → FieldsNamed fs → (fs.map Field.name).Nodup →
      written h nameRoom n = .error e → EntryIssue h raw info e

/-- The check for unnamed fields passes exactly when the fields are named. -/
theorem fieldsNamed_iff (fs : List Field) :
    FieldsNamed fs ↔ (1 < fs.length && (fs.map Field.name).any Option.isNone) = false := by
  simp [FieldsNamed, Option.isSome_iff_ne_none]

/-- A list has no item twice exactly when it has no repeat. -/
theorem hasRepeat_eq_false_iff {α : Type} [BEq α] [LawfulBEq α] (l : List α) :
    hasRepeat l = false ↔ l.Nodup := by
  induction l with
  | nil => simp [hasRepeat]
  | cons x rest ih => simp [hasRepeat, ih]

/-- An entry whose head reads is read from its fields on. -/
theorem typeSpec_of_head {raw n : Nat} {items : List Nat} (hd : EntryHead h raw info t n items) :
    typeSpec h raw info = (do
      let fs ← fields h t 0 items
      let names := fs.map Field.name
      if 1 < fs.length && names.any Option.isNone then throw (.unnamedFields t)
      if hasRepeat names then throw (.duplicateNames t)
      return ⟨t, ← written h nameRoom n, fs⟩) := by
  obtain ⟨hid, ⟨es, hg⟩, ⟨hn, ht⟩, ⟨v, hl, hv⟩, hne⟩ := hd
  obtain ⟨x, xs, rfl⟩ := List.exists_cons_of_ne_nil hne
  simp [typeSpec, hid, hg, hn, ht, hl, hv, bind, Except.bind, pure, Except.pure]

/-- An entry that reads as the type `s` is read as `s`. -/
theorem typeSpec_of_reads {raw : Nat} {s : TypeSpec} (hs : EntryReads h raw info s) :
    typeSpec h raw info = .ok s := by
  obtain ⟨n, items, hd, hr, hnamed, hnd, hw⟩ := hs
  rw [typeSpec_of_head hd, fields_of_reads hr]
  simp only [bind, Except.bind, (fieldsNamed_iff _).mp hnamed, (hasRepeat_eq_false_iff _).mpr hnd,
    Bool.false_eq_true, if_false, hw, pure, Except.pure]

/-- An entry that fails a check fails with that check's issue. -/
theorem typeSpec_of_issue {raw : Nat} {e : CatalogIssue} (hi : EntryIssue h raw info e) :
    typeSpec h raw info = .error e := by
  cases hi with
  | id hid => simp [typeSpec, hid, bind, Except.bind]
  | notMapping hid hm =>
    simp only [typeSpec, hid, bind, Except.bind]
    split
    · next es hg => exact absurd ⟨es, hg⟩ hm
    · rfl
  | noName hid hm hn =>
    obtain ⟨es, hg⟩ := hm
    cases hl : h.lookup? info "name" with
    | none => simp [typeSpec, hid, hg, hl, bind, Except.bind, throw, throwThe, MonadExceptOf.throw]
    | some n =>
      have hf : h.truthy n = false := by simpa [HasTrue, hl] using hn n
      simp [typeSpec, hid, hg, hl, hf, bind, Except.bind, throw, throwThe, MonadExceptOf.throw]
  | noFields hid hm hn hf =>
    obtain ⟨⟨es, hg⟩, ⟨hl, ht⟩⟩ := And.intro hm hn
    simp only [typeSpec, hid, hg, hl, ht, bind, Except.bind, Bool.not_true, Bool.false_eq_true,
      if_false]
    -- what stands under `fields` is no list with an item
    split
    · next x xs hv =>
      obtain ⟨v, hv', hget⟩ := Option.map_eq_some_iff.mp hv
      cases hf (x :: xs) ⟨v, hv', hget⟩
    · rfl
  | field hd hi => simp [typeSpec_of_head hd, fields_of_issue hi, bind, Except.bind]
  | @unnamed _ _ _ fs hd hr hnamed =>
    have hnamed' : (1 < fs.length && (fs.map Field.name).any Option.isNone) = true := by
      simpa using mt (fieldsNamed_iff fs).mpr hnamed
    simp only [typeSpec_of_head hd, fields_of_reads hr, bind, Except.bind, hnamed', if_true]
    rfl
  | @duplicate _ _ _ fs hd hr hnamed hnd =>
    have hrep : hasRepeat (fs.map Field.name) = true := by
      simpa using mt (hasRepeat_eq_false_iff _).mp hnd
    simp only [typeSpec_of_head hd, fields_of_reads hr, bind, Except.bind,
      (fieldsNamed_iff _).mp hnamed, hrep, Bool.false_eq_true, if_false, if_true]
    rfl
  | nameText hd hr hnamed hnd hw =>
    simp only [typeSpec_of_head hd, fields_of_reads hr, bind, Except.bind,
      (fieldsNamed_iff _).mp hnamed, (hasRepeat_eq_false_iff _).mpr hnd, Bool.false_eq_true,
      if_false, hw]

/-- Every entry reads as a type or fails a check. -/
theorem entryReads_or_issue (h : Heap) (raw info : Nat) :
    (∃ s, EntryReads h raw info s) ∨ ∃ e, EntryIssue h raw info e := by
  cases hid : typeId ((h.scalar? raw).getD .null) with
  | error e => exact .inr ⟨e, .id hid⟩
  | ok t =>
    by_cases hm : IsMapping h info
    swap
    · exact .inr ⟨_, .notMapping hid hm⟩
    by_cases hn : ∃ n, HasTrue h info "name" n
    swap
    · exact .inr ⟨_, .noName hid hm (fun n hn' => hn ⟨n, hn'⟩)⟩
    obtain ⟨n, hn⟩ := hn
    by_cases hf : ∃ items, FieldItems h info items ∧ items ≠ []
    swap
    · refine .inr ⟨_, .noFields hid hm hn (fun items hi => ?_)⟩
      by_contra hne
      exact hf ⟨items, hi, hne⟩
    obtain ⟨items, hi, hne⟩ := hf
    have hd : EntryHead h raw info t n items := ⟨hid, hm, hn, hi, hne⟩
    rcases fieldsRead_or_issue h t items 0 with ⟨fs, hfs⟩ | ⟨e, he⟩
    swap
    · exact .inr ⟨e, .field hd he⟩
    by_cases hnamed : FieldsNamed fs
    swap
    · exact .inr ⟨_, .unnamed hd hfs hnamed⟩
    by_cases hnd : (fs.map Field.name).Nodup
    swap
    · exact .inr ⟨_, .duplicate hd hfs hnamed hnd⟩
    cases hw : written h nameRoom n with
    | error e => exact .inr ⟨e, .nameText hd hfs hnamed hnd hw⟩
    | ok name => exact .inl ⟨⟨t, name, fs⟩, n, items, hd, hfs, hnamed, hnd, hw⟩

/-! ### The types mapping -/

/-- Entries that read as the types `specs`, one by one. -/
def EntriesRead (h : Heap) (entries : List (Nat × Nat)) (specs : List TypeSpec) : Prop :=
  List.Forall₂ (fun p s => EntryReads h p.1 p.2 s) entries specs

/-- The first entry of the types mapping that fails, after entries that read as types `ss` whose
ids are distinct from each other and from those of the types `prior` read before: the entry
fails a check, or it reads as a type whose id is taken. -/
def EntriesIssue (h : Heap) (prior : List TypeSpec) (entries : List (Nat × Nat))
    (e : CatalogIssue) : Prop :=
  ∃ pre p post ss, entries = pre ++ p :: post ∧ EntriesRead h pre ss ∧
    ((prior ++ ss).map TypeSpec.typeId).Nodup ∧
    (EntryIssue h p.1 p.2 e ∨ ∃ s, EntryReads h p.1 p.2 s ∧
      s.typeId ∈ (prior ++ ss).map TypeSpec.typeId ∧ e = .definedTwice s.typeId)

/-- The types read so far hold an id exactly when one of them has it. -/
theorem any_typeId_eq (acc : List TypeSpec) (k : Nat) :
    acc.any (fun p => p.typeId == k) = decide (k ∈ acc.map TypeSpec.typeId) := by
  rw [Bool.eq_iff_iff, List.any_eq_true, decide_eq_true_iff, List.mem_map]
  simp

/-- A type read after others, all with distinct ids, has an id none of the others has. -/
theorem typeId_not_mem_of_nodup {acc ss : List TypeSpec} {s : TypeSpec}
    (hnd : ((acc.reverse ++ s :: ss).map TypeSpec.typeId).Nodup) :
    s.typeId ∉ acc.map TypeSpec.typeId := by
  simp only [List.map_append, List.map_reverse, List.map_cons, List.nodup_append,
    List.mem_reverse] at hnd
  exact fun hmem => hnd.2.2 _ hmem _ (List.mem_cons_self ..) rfl

/-- Entries that read as types with new ids are read as those types, after the ones read. -/
theorem typeSpecs_of_reads {entries : List (Nat × Nat)} {specs : List TypeSpec}
    (hr : EntriesRead h entries specs) (acc : List TypeSpec)
    (hnd : ((acc.reverse ++ specs).map TypeSpec.typeId).Nodup) :
    typeSpecs h acc entries = .ok (acc.reverse ++ specs) := by
  induction hr generalizing acc with
  | nil => simp [typeSpecs]
  | @cons p s rest ss hs _ ih =>
    have hnew := typeId_not_mem_of_nodup hnd
    have hnd' : (((s :: acc).reverse ++ ss).map TypeSpec.typeId).Nodup := by simpa using hnd
    simp only [typeSpecs, typeSpec_of_reads hs, bind, Except.bind, any_typeId_eq, hnew,
      decide_false, Bool.false_eq_true, if_false, ih _ hnd']
    simp

/-- Entries fail with the issue of the first that fails. -/
theorem typeSpecs_of_issue {entries : List (Nat × Nat)} {e : CatalogIssue} (acc : List TypeSpec)
    (hi : EntriesIssue h acc.reverse entries e) : typeSpecs h acc entries = .error e := by
  obtain ⟨pre, ⟨raw, info⟩, post, ss, rfl, hpre, hnd, hlast⟩ := hi
  induction hpre generalizing acc with
  | nil =>
    rcases hlast with hi | ⟨s, hs, hmem, rfl⟩
    · simp [typeSpecs, typeSpec_of_issue hi, bind, Except.bind]
    · have hmem' : s.typeId ∈ acc.map TypeSpec.typeId := by simpa using hmem
      simp [typeSpecs, typeSpec_of_reads hs, any_typeId_eq, hmem', bind, Except.bind, throw,
        throwThe, MonadExceptOf.throw]
  | @cons p s rest ss hs _ ih =>
    have hnew := typeId_not_mem_of_nodup hnd
    simp only [List.cons_append, typeSpecs, typeSpec_of_reads hs, bind, Except.bind,
      any_typeId_eq, hnew, decide_false, Bool.false_eq_true, if_false]
    exact ih (s :: acc) (by simpa using hnd) (by simpa using hlast)

/-- Entries after types with distinct ids read as types with new distinct ids, or have a first
that fails. -/
theorem entriesRead_or_issue (h : Heap) (entries : List (Nat × Nat)) (prior : List TypeSpec)
    (hnd : (prior.map TypeSpec.typeId).Nodup) :
    (∃ specs, EntriesRead h entries specs ∧ ((prior ++ specs).map TypeSpec.typeId).Nodup) ∨
      ∃ e, EntriesIssue h prior entries e := by
  induction entries generalizing prior with
  | nil => exact .inl ⟨[], .nil, by simpa using hnd⟩
  | cons p rest ih =>
    rcases entryReads_or_issue h p.1 p.2 with ⟨s, hs⟩ | ⟨e, he⟩
    · by_cases hmem : s.typeId ∈ prior.map TypeSpec.typeId
      · exact .inr ⟨_, [], p, rest, [], rfl, .nil, by simpa using hnd,
          .inr ⟨s, hs, by simpa using hmem, rfl⟩⟩
      · have hnd' : ((prior ++ [s]).map TypeSpec.typeId).Nodup := by
          rw [List.map_append, List.nodup_append_comm, List.map_singleton, List.singleton_append]
          exact List.nodup_cons.mpr ⟨hmem, hnd⟩
        rcases ih (prior ++ [s]) hnd' with ⟨specs, hr, hnds⟩ |
            ⟨e, pre, q, post, ss, rfl, hpre, hnds, hlast⟩
        · exact .inl ⟨s :: specs, .cons hs hr, by simpa using hnds⟩
        · exact .inr ⟨e, p :: pre, q, post, s :: ss, rfl, .cons hs hpre, by simpa using hnds,
            by simpa using hlast⟩
    · exact .inr ⟨e, [], p, rest, [], rfl, .nil, by simpa using hnd, .inl he⟩

/-- The types mapping's entries read as the types `specs`, with distinct ids, exactly when they
are read as `specs`; they fail exactly with their first issue. -/
theorem typeSpecs_outcome (h : Heap) (entries : List (Nat × Nat)) :
    (∀ specs, typeSpecs h [] entries = .ok specs ↔
      EntriesRead h entries specs ∧ (specs.map TypeSpec.typeId).Nodup) ∧
    ∀ e, typeSpecs h [] entries = .error e ↔ EntriesIssue h [] entries e := by
  refine outcome_iff (fun specs hs => ?_) (fun e hi => typeSpecs_of_issue [] hi) ?_
  · simpa using typeSpecs_of_reads hs.1 [] (by simpa using hs.2)
  · simpa using entriesRead_or_issue h entries [] List.nodup_nil

/-! ### Documents -/

/-- The entries of a document's `types` mapping. -/
def TypesEntries (doc : Yaml.Document) (entries : List (Nat × Nat)) : Prop :=
  ∃ t, doc.heap.lookup? doc.root "types" = some t ∧ doc.heap.get t = .dict entries

/-- A document declares the types `specs`: the entries of its `types` mapping read as them, in
order, with distinct ids. -/
def Declares (doc : Yaml.Document) (specs : List TypeSpec) : Prop :=
  ∃ entries, TypesEntries doc entries ∧ EntriesRead doc.heap entries specs ∧
    (specs.map TypeSpec.typeId).Nodup

/-- The first issue of a document `name`: it has no `types` mapping, or the mapping's first
entry that fails has the issue. -/
def FirstIssue (doc : Yaml.Document) (name : String) (e : CatalogIssue) : Prop :=
  (∀ entries, ¬ TypesEntries doc entries) ∧ e = .missingRoot name ∨
    ∃ entries, TypesEntries doc entries ∧ EntriesIssue doc.heap [] entries e

/-- A document has one `types` mapping at most. -/
theorem TypesEntries.unique {doc : Yaml.Document} {a b : List (Nat × Nat)}
    (ha : TypesEntries doc a) (hb : TypesEntries doc b) : a = b := by
  obtain ⟨t, hl, hg⟩ := ha
  obtain ⟨t', hl', hg'⟩ := hb
  rw [hl] at hl'
  cases hl'
  rw [hg] at hg'
  cases hg'
  rfl

variable {name text : String} {doc : Yaml.Document}

/-- A document with a types mapping is read entry by entry. -/
theorem parse_of_typesEntries (hload : Yaml.load text = .ok doc) {entries : List (Nat × Nat)}
    (ht : TypesEntries doc entries) : parse name text = typeSpecs doc.heap [] entries := by
  obtain ⟨t, hl, hg⟩ := ht
  unfold parse
  simp only [hload, truthy_of_lookup? hl, hl, hg, if_true, bind, Except.bind, pure, Except.pure]

/-- A document without a types mapping misses its root. -/
theorem parse_of_no_typesEntries (hload : Yaml.load text = .ok doc)
    (hn : ∀ entries, ¬ TypesEntries doc entries) :
    parse name text = .error (.missingRoot name) := by
  unfold parse
  simp only [hload, bind, Except.bind, pure, Except.pure]
  -- the root may count as false, hold no `types`, or hold something else under it
  cases hr : doc.heap.truthy doc.root
  · rfl
  · cases hl : doc.heap.lookup? doc.root "types" with
    | none => rfl
    | some t =>
      simp only [if_true]
      split
      · next entries hg => exact absurd ⟨t, hl, hg⟩ (hn entries)
      · rfl

/-! ### How issues are raised -/

/-- A field's issue is a wrong declaration, or a name or encoding nested too deep to write. -/
theorem FieldIssue.kind_eq {i : Nat} {e : CatalogIssue} (hi : FieldIssue h t i info e) :
    e.kind = .invalid ∨ e = .nestedTooDeep := by
  cases hi with
  | encodeText _ _ hw => rcases written_error hw with rfl | rfl <;> simp [CatalogIssue.kind]
  | nameText _ _ _ _ _ hw => rcases written_error hw with rfl | rfl <;> simp [CatalogIssue.kind]
  | _ => exact .inl rfl

/-- An entry's issue is a wrong declaration, an infinite type id, or a name nested too deep to
write. -/
theorem EntryIssue.kind_eq {raw : Nat} {e : CatalogIssue} (hi : EntryIssue h raw info e) :
    e.kind = .invalid ∨ e = .infiniteId ∨ e = .nestedTooDeep := by
  cases hi with
  | id hid =>
    rcases typeId_error hid with rfl | rfl | ⟨n, rfl⟩
    · exact .inl rfl
    · exact .inr (.inl rfl)
    · exact .inl rfl
  | field _ hi =>
    obtain ⟨pre, item, post, fs, hsplit, hpre, hf⟩ := hi
    rcases hf.kind_eq with hk | rfl
    · exact .inl hk
    · exact .inr (.inr rfl)
  | nameText _ _ _ _ hw => rcases written_error hw with rfl | rfl <;> simp [CatalogIssue.kind]
  | _ => exact .inl rfl

/-- A document's first issue is a wrong declaration, an infinite type id, or a name nested too
deep to write. -/
theorem FirstIssue.kind_eq {e : CatalogIssue} (hi : FirstIssue doc name e) :
    e.kind = .invalid ∨ e = .infiniteId ∨ e = .nestedTooDeep := by
  rcases hi with ⟨-, rfl⟩ | ⟨entries, -, pre, p, post, ss, hsplit, hpre, hnd, he | ⟨s, -, -, rfl⟩⟩
  · exact .inl rfl
  · exact he.kind_eq
  · exact .inl rfl

/-! ### Reading a catalog -/

/-- A catalog text that reads as types has a YAML document. -/
theorem parse_loads {specs : List TypeSpec} (hp : parse name text = .ok specs) :
    ∃ doc, Yaml.load text = .ok doc := by
  unfold parse at hp
  cases hl : Yaml.load text with
  | ok doc => exact ⟨doc, rfl⟩
  | error f => simp [hl, bind, Except.bind, throw, throwThe, MonadExceptOf.throw] at hp

/-- A catalog text that loads is read as exactly the types its document declares. -/
theorem parse_eq_ok_iff (hload : Yaml.load text = .ok doc) (specs : List TypeSpec) :
    parse name text = .ok specs ↔ Declares doc specs := by
  by_cases ht : ∃ entries, TypesEntries doc entries
  · obtain ⟨entries, ht⟩ := ht
    rw [parse_of_typesEntries hload ht, (typeSpecs_outcome doc.heap entries).1 specs]
    constructor
    · exact fun hs => ⟨entries, ht, hs⟩
    · rintro ⟨entries', ht', hs⟩
      rwa [ht.unique ht']
  · have hn : ∀ entries, ¬ TypesEntries doc entries := fun entries he => ht ⟨entries, he⟩
    rw [parse_of_no_typesEntries hload hn]
    constructor
    · rintro ⟨⟩
    · rintro ⟨entries, he, -⟩
      exact absurd he (hn entries)

/-- Whether a catalog text reads as types, and as which, does not depend on the file's name. -/
theorem parse_eq_ok_of_name {specs : List TypeSpec} (hp : parse name text = .ok specs)
    (name' : String) : parse name' text = .ok specs := by
  obtain ⟨doc, hload⟩ := parse_loads hp
  exact (parse_eq_ok_iff hload specs).mpr ((parse_eq_ok_iff hload specs).mp hp)

/-- A catalog text that loads fails exactly with its document's first issue. -/
theorem parse_eq_error_iff (hload : Yaml.load text = .ok doc) (e : CatalogIssue) :
    parse name text = .error e ↔ FirstIssue doc name e := by
  by_cases ht : ∃ entries, TypesEntries doc entries
  · obtain ⟨entries, ht⟩ := ht
    rw [parse_of_typesEntries hload ht, (typeSpecs_outcome doc.heap entries).2 e]
    constructor
    · exact fun hi => .inr ⟨entries, ht, hi⟩
    · rintro (⟨hn, -⟩ | ⟨entries', ht', hi⟩)
      · exact absurd ht (hn entries)
      · rwa [ht.unique ht']
  · have hn : ∀ entries, ¬ TypesEntries doc entries := fun entries he => ht ⟨entries, he⟩
    rw [parse_of_no_typesEntries hload hn]
    constructor
    · rintro ⟨⟩
      exact .inl ⟨hn, rfl⟩
    · rintro (⟨-, rfl⟩ | ⟨entries, he, -⟩)
      · rfl
      · exact absurd he (hn entries)

/-- A catalog text that loads is read as exactly the types its document declares, and fails
exactly with the document's first issue: a missing types mapping, or the first entry in the
mapping's order that fails its checks (the id, the mapping, the name, the fields list, each field
in order, the names of several fields, their repeats, the name's text) or repeats an id. The
issue is a wrong declaration, except an infinite number as a type id and a name or encoding
nested too deep to write. -/
theorem parse_eq_iff_declares_or_firstIssue (name text : String) {doc : Yaml.Document}
    (hload : Yaml.load text = .ok doc) (specs : List TypeSpec) (e : CatalogIssue) :
    (parse name text = .ok specs ↔ Declares doc specs) ∧
    (parse name text = .error e ↔ FirstIssue doc name e) ∧
    (parse name text = .error e → e.kind = .invalid ∨ e = .infiniteId ∨ e = .nestedTooDeep) :=
  ⟨parse_eq_ok_iff hload specs, parse_eq_error_iff hload e,
    fun he => ((parse_eq_error_iff hload e).mp he).kind_eq⟩

/-! ### A catalog of one battery type -/

/-- A catalog of one type, `0xF0`, whose one field reads a battery's voltage from two bytes of
millivolts. -/
def batteryCatalog : String :=
  "types:\n  0xF0:\n    name: Battery\n    fields:\n" ++
    "      - \x7bname: voltage, encode: uint16, divisor: 1000\x7d\n"

/-- The type the battery catalog declares. -/
def batterySpec : TypeSpec := ⟨0xF0, "Battery", [⟨some "voltage", "uint16", .int 1000⟩]⟩

/-- The battery type reads `0E 74` as a voltage of 3700 millivolts over a divisor of 1000. -/
theorem batterySpec_decode :
    batterySpec.decode [0x0E, 0x74] =
      .ok (.record [("voltage", .real (Decimal.ofInt 3700 / Decimal.ofInt 1000))]) := by
  have hfit : Decimal.fitsDouble 1000 = true := by decide
  have hname : Encoding.ofName? "uint16" = some .uint16 := by decide +kernel
  have hread : Encoding.uint16.read [0x0E, 0x74] = .int 3700 := rfl
  simp [batterySpec, TypeSpec.decode, decodeLayout, decodeLayout.record, decodeFields, Field.size,
    Field.decode, Encoding.named, decodeNamed, bind, Except.bind, pure, Except.pure, Except.map,
    Datum.toFloat, hfit, Decimal.ofInt_beq_zero, Datum.looseEq, hname, Datum.intValue?,
    Encoding.size, Encoding.isInteger, hread, Field.scale, KeyedMap.empty, KeyedMap.insert,
    KeyedMap.upsert, Field.key]

set_option synthInstance.maxSize 2048 in
/-- The battery catalog reads as its one type, whatever the file is called. -/
theorem parse_batteryCatalog (name : String) : parse name batteryCatalog = .ok [batterySpec] := by
  -- the reader runs in the kernel under one name; the ids, names, encodings and integer
  -- divisors it gives pin the types down
  have h : (parse "types.yml" batteryCatalog).toOption.map (List.map fun s =>
      (s.typeId, s.name, s.fields.map fun f =>
        (f.name, f.encode, f.divisor.typeName, f.divisor.intValue?))) =
      some [(240, "Battery", [(some "voltage", "uint16", "int", some 1000)])] := by
    decide +kernel
  cases hp : parse "types.yml" batteryCatalog with
  | error e => rw [hp] at h; cases h
  | ok specs =>
    rw [hp] at h
    rcases specs with _ | ⟨⟨t, n, _ | ⟨⟨fn, fe, d⟩, _ | _⟩⟩, _ | _⟩ <;>
      simp [Except.toOption] at h
    obtain ⟨rfl, rfl, rfl, rfl, hd⟩ := h
    cases d <;> simp [Datum.typeName, Datum.intValue?] at hd
    subst hd
    exact parse_eq_ok_of_name hp name

/-- The battery catalog loads as a document that declares its one type and has no issue. -/
theorem parse_batteryCatalog_declares :
    ∃ doc, Yaml.load batteryCatalog = .ok doc ∧ Declares doc [batterySpec] ∧
      ∀ e, ¬ FirstIssue doc "types.yml" e := by
  obtain ⟨doc, hload⟩ := parse_loads (parse_batteryCatalog "types.yml")
  have hspec := parse_eq_iff_declares_or_firstIssue "types.yml" batteryCatalog hload [batterySpec]
  refine ⟨doc, hload, ((hspec (.missingRoot "types.yml")).1.mp (parse_batteryCatalog _)),
    fun e he => ?_⟩
  -- an issue would make the text fail to read, and it reads
  have hfail := (hspec e).2.1.mpr he
  rw [parse_batteryCatalog] at hfail
  cases hfail

end Catalog

end LowPowerPayload
