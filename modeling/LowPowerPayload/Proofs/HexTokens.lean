import LowPowerPayload.HexText
import LowPowerPayload.Proofs.Loaded
import Mathlib
/-!
# Payload text: tokens and the bytes they spell

A payload text reads as tokens with runs of separators before, between and after them
(`Tokenized`); the scan finds exactly these tokens (`tokens_eq_iff`), and trimming blanks from
the ends changes none of them. A token spells hexadecimal digits (`Spells`): itself when it is
all digits, and after a `0x` or `0X` prefix the digits that follow, a single one of them taken
as one byte after a zero.

`parse_eq_ok_iff` says which texts read as which bytes: those whose tokens all spell digits, and
whose digits, lowered, are the lowercase hexadecimal text of the bytes. The digits are counted
over the whole text, not token by token: `1 2` reads as the one byte `0x12`, and a bare `0x`
spells no digit at all. Every text of byte groups written as tokens in the usual forms reads
back as the bytes (`parse_intercalate`).
-/

namespace LowPowerPayload

/-! ### Hexadecimal digits -/

namespace Text

theorem toNat_hexDigit {x : Nat} (hx : x < 16) :
    (hexDigit x).toNat = if x < 10 then 48 + x else 87 + x := by
  unfold hexDigit
  split <;> rw [Char.toNat_ofNat, if_pos (by simp [Nat.isValidChar]; omega)]

theorem char_le_iff {c d : Char} : c ≤ d ↔ c.toNat ≤ d.toNat := by
  simp [Char.le_def, UInt32.le_iff_toNat_le, Char.toNat_val]

/-- A character has a hexadecimal value exactly when its lowercase form is the digit of that
value. -/
theorem hexValue?_eq_some_iff (c : Char) (x : Nat) :
    hexValue? c = some x ↔ x < 16 ∧ c.toLower = hexDigit x := by
  rw [← Char.toNat_inj, toNat_toLower]
  unfold hexValue?
  simp only [Char.isDigit_iff_toNat, char_le_iff]
  have h0 : '0'.toNat = 48 := rfl
  have h9 : '9'.toNat = 57 := rfl
  have ha : 'a'.toNat = 97 := rfl
  have hf : 'f'.toNat = 102 := rfl
  have hA : 'A'.toNat = 65 := rfl
  have hF : 'F'.toNat = 70 := rfl
  rw [h0, h9, ha, hf, hA, hF]
  constructor
  · -- each branch reads a value below 16 whose digit is the character lowered
    intro h
    split_ifs at h <;> cases h <;> refine ⟨by omega, ?_⟩ <;> rw [toNat_hexDigit (by omega)] <;>
      split_ifs <;> omega
  · -- the lowered character is a decimal digit or one of `a` to `f`, so one branch fires
    rintro ⟨hx, he⟩
    rw [toNat_hexDigit hx] at he
    split_ifs at he ⊢ <;> first | omega | (congr 1; omega)

/-- The characters with a hexadecimal value are core's hexadecimal digits. -/
theorem isHexDigit_iff (c : Char) : c.isHexDigit = true ↔ (hexValue? c).isSome := by
  unfold hexValue? Char.isHexDigit
  split_ifs with h1 h2 h3 <;>
    simp_all [Char.isDigit, Char.le_def, UInt32.le_iff_toNat_le, ge_iff_le]

theorem toList_bytesHex_cons (b : UInt8) (bs : List UInt8) :
    (bytesHex (b :: bs)).toList =
      hexDigit (b.toNat / 16) :: hexDigit (b.toNat % 16) :: (bytesHex bs).toList := by
  simp [bytesHex, byteHex, String.toList_join]

@[simp] theorem toList_bytesHex_nil : (bytesHex []).toList = [] := by
  simp [bytesHex]

theorem toList_bytesHex_append (bs bs' : List UInt8) :
    (bytesHex (bs ++ bs')).toList = (bytesHex bs).toList ++ (bytesHex bs').toList := by
  simp [bytesHex, String.toList_join]

theorem toList_bytesHex_flatten (gs : List (List UInt8)) :
    (bytesHex gs.flatten).toList = (gs.map fun g => (bytesHex g).toList).flatten := by
  induction gs with
  | nil => simp
  | cons g gs ih => rw [List.flatten_cons, toList_bytesHex_append, ih, List.map_cons,
      List.flatten_cons]

/-- The digits are lowercase already. -/
theorem toLower_hexDigit {x : Nat} (hx : x < 16) : (hexDigit x).toLower = hexDigit x := by
  rw [← Char.toNat_inj, toNat_toLower, toNat_hexDigit hx]
  split_ifs <;> omega

theorem isHexDigit_hexDigit {x : Nat} (hx : x < 16) : (hexDigit x).isHexDigit = true := by
  rw [isHexDigit_iff, (hexValue?_eq_some_iff _ x).mpr ⟨hx, toLower_hexDigit hx⟩]
  rfl

theorem toUInt8_eq_iff {x y : Nat} (hx : x < 16) (hy : y < 16) (b : UInt8) :
    (x * 16 + y).toUInt8 = b ↔ x = b.toNat / 16 ∧ y = b.toNat % 16 := by
  rw [← UInt8.toNat_inj]
  have := b.toNat_lt
  simp only [Nat.toUInt8_eq, UInt8.toNat_ofNat']
  omega

/-- Two characters and the rest spell a byte and the rest's bytes exactly when the two are the
byte's digits. -/
theorem bytesOfHex?_cons_cons (a b : Char) (rest : List Char) (byte : UInt8) (bs : List UInt8) :
    bytesOfHex? (a :: b :: rest) = some (byte :: bs) ↔
      hexValue? a = some (byte.toNat / 16) ∧ hexValue? b = some (byte.toNat % 16) ∧
        bytesOfHex? rest = some bs := by
  simp only [bytesOfHex?]
  split
  · next x y bs' ha hb hr =>
    have hx := ((hexValue?_eq_some_iff a x).mp ha).1
    have hy := ((hexValue?_eq_some_iff b y).mp hb).1
    simp only [Option.some.injEq, List.cons.injEq, toUInt8_eq_iff hx hy, ha, hb, hr]
    tauto
  · next h =>
    simp only [reduceCtorEq, false_iff, not_and]
    intro ha hb hr
    exact h _ _ _ ha hb hr

/-- A list of characters spells a byte string exactly when, lowered, it is the byte string's
lowercase hexadecimal text. -/
theorem bytesOfHex?_eq_some_iff :
    (ds : List Char) → (bs : List UInt8) →
      (bytesOfHex? ds = some bs ↔ ds.map Char.toLower = (bytesHex bs).toList)
  | [], bs => by cases bs <;> simp [bytesOfHex?, toList_bytesHex_cons]
  | [a], bs => by cases bs <;> simp [bytesOfHex?, toList_bytesHex_cons]
  | a :: b :: rest, [] => by
    simp only [bytesOfHex?, toList_bytesHex_nil, List.map_cons, reduceCtorEq, iff_false]
    split <;> simp
  | a :: b :: rest, byte :: bs => by
    have hhi : byte.toNat / 16 < 16 := by have := byte.toNat_lt; omega
    have hlo : byte.toNat % 16 < 16 := Nat.mod_lt _ (by omega)
    rw [bytesOfHex?_cons_cons, toList_bytesHex_cons, hexValue?_eq_some_iff,
      hexValue?_eq_some_iff, bytesOfHex?_eq_some_iff rest bs]
    simp [hhi, hlo]

end Text

/-! ### Tokens -/

namespace HexText

/-- One step of the token scan: the token being read (reversed) and the tokens closed so far
(reversed). -/
def scanStep (st : List Char × List (List Char)) (c : Char) : List Char × List (List Char) :=
  if isSeparator c then ([], closeToken st.1 st.2) else (c :: st.1, st.2)

/-- The tokens of a scan state: those closed, then the one being read. -/
def scanned (st : List Char × List (List Char)) : List (List Char) :=
  (closeToken st.1 st.2).reverse

theorem tokens_eq_scanned (cs : List Char) :
    tokens cs = scanned (cs.foldl scanStep ([], [])) := rfl

@[simp] theorem tokens_nil : tokens [] = [] := rfl

theorem closeToken_append (cur : List Char) (acc acc' : List (List Char)) :
    closeToken cur (acc ++ acc') = closeToken cur acc ++ acc' := by
  unfold closeToken
  split <;> rfl

/-- The tokens closed before a scan stay under everything the scan closes. -/
theorem foldl_scanStep_append (cs cur : List Char) (acc acc' : List (List Char)) :
    cs.foldl scanStep (cur, acc ++ acc') =
      ((cs.foldl scanStep (cur, acc)).1, (cs.foldl scanStep (cur, acc)).2 ++ acc') := by
  induction cs generalizing cur acc with
  | nil => rfl
  | cons c cs ih =>
    simp only [List.foldl_cons, scanStep]
    split
    · rw [closeToken_append, ih]
    · exact ih (c :: cur) acc

theorem foldl_scanStep_separators {sep : List Char} (hsep : ∀ c ∈ sep, isSeparator c = true) :
    sep.foldl scanStep ([], []) = ([], []) := by
  induction sep with
  | nil => rfl
  | cons c sep ih =>
    simp only [List.mem_cons, forall_eq_or_imp] at hsep
    simp only [List.foldl_cons, scanStep, hsep.1, if_true]
    exact ih hsep.2

theorem foldl_scanStep_token {tok : List Char} (htok : ∀ c ∈ tok, isSeparator c = false)
    (cur : List Char) (acc : List (List Char)) :
    tok.foldl scanStep (cur, acc) = (tok.reverse ++ cur, acc) := by
  induction tok generalizing cur with
  | nil => rfl
  | cons c tok ih =>
    simp only [List.mem_cons, forall_eq_or_imp] at htok
    simp only [List.foldl_cons, scanStep, htok.1, Bool.false_eq_true, if_false]
    rw [ih htok.2]
    simp

/-- Leading separators hold no token. -/
theorem tokens_separators_append {sep : List Char} (hsep : ∀ c ∈ sep, isSeparator c = true)
    (cs : List Char) : tokens (sep ++ cs) = tokens cs := by
  rw [tokens_eq_scanned, List.foldl_append, foldl_scanStep_separators hsep, ← tokens_eq_scanned]

/-- A run of other characters up to a separator or the end is the next token. -/
theorem tokens_token_append {tok rest : List Char} (hne : tok ≠ [])
    (htok : ∀ c ∈ tok, isSeparator c = false) (hrest : ∀ c ∈ rest.head?, isSeparator c = true) :
    tokens (tok ++ rest) = tok :: tokens rest := by
  rw [tokens_eq_scanned, List.foldl_append, foldl_scanStep_token htok, List.append_nil]
  cases rest with
  | nil => simp [scanned, closeToken, hne]
  | cons c rest =>
    -- the separator closes the token, and the scan of the rest runs above it
    have hc : isSeparator c = true := hrest c rfl
    have h := foldl_scanStep_append rest [] [] [tok]
    simp only [List.nil_append] at h
    simp only [List.foldl_cons, scanStep, hc, if_true, closeToken, List.isEmpty_reverse,
      List.isEmpty_eq_false_iff.mpr hne, Bool.false_eq_true, if_false, List.reverse_reverse]
    have hsep : tokens ([c] ++ rest) = tokens rest :=
      tokens_separators_append (by simpa using hc) rest
    rw [h, show tokens (c :: rest) = tokens rest from hsep, tokens_eq_scanned, scanned, scanned,
      closeToken_append, List.reverse_append]
    rfl

/-- A text read as tokens: runs of separators before, between and after them, each token a
nonempty run of other characters. -/
inductive Tokenized : List Char → List (List Char) → Prop
  /-- Separators alone hold no token. -/
  | blank {sep : List Char} : (∀ c ∈ sep, isSeparator c = true) → Tokenized sep []
  /-- Separators, a token, and then a separator or the end. -/
  | token {sep tok rest : List Char} {toks : List (List Char)} :
      (∀ c ∈ sep, isSeparator c = true) → tok ≠ [] → (∀ c ∈ tok, isSeparator c = false) →
      (∀ c ∈ rest.head?, isSeparator c = true) → Tokenized rest toks →
      Tokenized (sep ++ tok ++ rest) (tok :: toks)

/-- The scan finds the tokens of any reading of the text. -/
theorem Tokenized.tokens_eq {cs : List Char} {toks : List (List Char)}
    (h : Tokenized cs toks) : tokens cs = toks := by
  induction h with
  | blank hsep => simpa using tokens_separators_append hsep []
  | token hsep hne htok hrest _ ih =>
    rw [List.append_assoc, tokens_separators_append hsep, tokens_token_append hne htok hrest, ih]

/-- A text with a character other than a separator is its leading separators, its first token,
and a shorter rest that is empty or starts with a separator. -/
theorem exists_first_token {cs more : List Char} {c : Char}
    (hd : cs.dropWhile isSeparator = c :: more) :
    ∃ sep tok rest, cs = sep ++ tok ++ rest ∧ (∀ x ∈ sep, isSeparator x = true) ∧ tok ≠ [] ∧
      (∀ x ∈ tok, isSeparator x = false) ∧ (∀ x ∈ rest.head?, isSeparator x = true) ∧
      rest.length < cs.length := by
  have hc : isSeparator c = false := by
    have := List.head?_dropWhile_not isSeparator cs
    rwa [hd] at this
  set q : Char → Bool := fun x => !isSeparator x with hq
  refine ⟨cs.takeWhile isSeparator, (c :: more).takeWhile q, (c :: more).dropWhile q, ?_,
    fun x hx => List.mem_takeWhile_imp hx, by simp [hq, hc],
    fun x hx => by simpa [hq] using List.mem_takeWhile_imp hx, fun x hx => ?_, ?_⟩
  · rw [List.append_assoc, List.takeWhile_append_dropWhile, ← hd, List.takeWhile_append_dropWhile]
  · -- the token stops at a separator
    have := List.head?_dropWhile_not q (c :: more)
    rw [Option.mem_def.mp hx] at this
    simpa [hq] using this
  · -- the rest lies past the first token's first character
    have h1 : (c :: more).dropWhile q = more.dropWhile q := by simp [hq, hc]
    have h2 := List.length_dropWhile_le more (p := q)
    have h3 := congrArg List.length (List.takeWhile_append_dropWhile (p := isSeparator) (l := cs))
    rw [hd, List.length_append, List.length_cons] at h3
    rw [h1]
    omega

/-- Every text reads as its scanned tokens. -/
theorem tokenized_tokens (cs : List Char) : Tokenized cs (tokens cs) := by
  induction h : cs.length using Nat.strong_induction_on generalizing cs with
  | _ n ih =>
    -- either the text is all separators, or it starts with separators and a first token
    cases hd : cs.dropWhile isSeparator with
    | nil =>
      have hsep : ∀ x ∈ cs, isSeparator x = true := List.dropWhile_eq_nil_iff.mp hd
      have htoks : tokens cs = [] := by simpa using tokens_separators_append hsep []
      rw [htoks]
      exact .blank hsep
    | cons c more =>
      obtain ⟨sep, tok, rest, rfl, hsep, hne, htok, hrest, hlen⟩ := exists_first_token hd
      rw [List.append_assoc, tokens_separators_append hsep, tokens_token_append hne htok hrest,
        ← List.append_assoc]
      exact .token hsep hne htok hrest (ih _ (h ▸ hlen) _ rfl)

/-- The scan reads a text as exactly one list of tokens. -/
theorem tokens_eq_iff {cs : List Char} {toks : List (List Char)} :
    tokens cs = toks ↔ Tokenized cs toks :=
  ⟨fun h => h ▸ tokenized_tokens cs, Tokenized.tokens_eq⟩

/-- Separators after a text add no token. -/
theorem Tokenized.append_separators {cs : List Char} {toks : List (List Char)}
    (h : Tokenized cs toks) {sep : List Char} (hsep : ∀ c ∈ sep, isSeparator c = true) :
    Tokenized (cs ++ sep) toks := by
  induction h with
  | blank hpre =>
    refine .blank fun c hc => ?_
    rcases List.mem_append.mp hc with hc | hc
    · exact hpre c hc
    · exact hsep c hc
  | @token pre tok rest toks hpre hne htok hrest _ ih =>
    rw [List.append_assoc]
    refine .token hpre hne htok (fun c hc => ?_) ih
    cases rest with
    | nil => exact hsep c (List.mem_of_mem_head? hc)
    | cons d rest => exact hrest c hc

theorem isSeparator_of_isBlank {c : Char} (h : Text.isBlank c = true) : isSeparator c = true := by
  simp [isSeparator, h]

/-- Trimming blanks from both ends leaves the tokens as they are. -/
theorem tokens_trimBlank (s : String) : tokens (Text.trimBlank s).toList = tokens s.toList := by
  set m := s.toList.dropWhile Text.isBlank with hm
  have hpre : ∀ c ∈ s.toList.takeWhile Text.isBlank, isSeparator c = true :=
    fun c hc => isSeparator_of_isBlank (List.mem_takeWhile_imp hc)
  have hsuf : ∀ c ∈ (m.reverse.takeWhile Text.isBlank).reverse, isSeparator c = true :=
    fun c hc => isSeparator_of_isBlank (List.mem_takeWhile_imp (List.mem_reverse.mp hc))
  -- the text is its blank prefix, the trimmed text, and its blank suffix
  have hsplit : m = (m.reverse.dropWhile Text.isBlank).reverse ++
      (m.reverse.takeWhile Text.isBlank).reverse := by
    rw [← List.reverse_append, List.takeWhile_append_dropWhile, List.reverse_reverse]
  have htrim : (Text.trimBlank s).toList = (m.reverse.dropWhile Text.isBlank).reverse := by
    simp [Text.trimBlank, hm]
  have hs : tokens s.toList = tokens m := by
    rw [← tokens_separators_append hpre m, hm, List.takeWhile_append_dropWhile]
  rw [htrim, hs]
  generalize (m.reverse.dropWhile Text.isBlank).reverse = t at hsplit
  rw [eq_comm, tokens_eq_iff, hsplit]
  exact (tokenized_tokens t).append_separators hsuf

/-! ### The digits a token spells -/

/-- The hexadecimal digits a token spells. A token of digits spells itself; after a `0x` or `0X`
prefix, digits other than a single one spell themselves, and a single digit spells itself after
a zero, one byte. -/
inductive Spells : List Char → List Char → Prop
  | plain {ds : List Char} : (∀ c ∈ ds, c.isHexDigit = true) → Spells ds ds
  | prefixed {x : Char} {ds : List Char} : (x = 'x' ∨ x = 'X') →
      (∀ c ∈ ds, c.isHexDigit = true) → ds.length ≠ 1 → Spells ('0' :: x :: ds) ds
  | single {x d : Char} : (x = 'x' ∨ x = 'X') → d.isHexDigit = true → Spells ['0', x, d] ['0', d]

theorem digitsOf_prefixed {x : Char} (hx : x = 'x' ∨ x = 'X') {ds : List Char}
    (hlen : ds.length ≠ 1) : digitsOf ('0' :: x :: ds) = ds := by
  have hsel : (x == 'x' || x == 'X') = true := by rcases hx with rfl | rfl <;> rfl
  simp only [digitsOf, hsel, if_true]
  split
  · simp at hlen
  · rfl

theorem digitsOf_single {x : Char} (hx : x = 'x' ∨ x = 'X') (d : Char) :
    digitsOf ['0', x, d] = ['0', d] := by
  rcases hx with rfl | rfl <;> rfl

/-- A token without the `0x` prefix spells its own characters. -/
theorem digitsOf_of_not_prefixed {tok : List Char}
    (h : ¬ ∃ x ds, tok = '0' :: x :: ds ∧ (x = 'x' ∨ x = 'X')) : digitsOf tok = tok := by
  unfold digitsOf
  split
  · next x ds =>
    have hx : ¬ (x = 'x' ∨ x = 'X') := fun hx => h ⟨x, ds, rfl, hx⟩
    simp only [Bool.or_eq_true, beq_iff_eq]
    rw [if_neg hx]
  · rfl

/-- A token spells digits exactly when these are its digits with the prefix taken off, and all
of them are hexadecimal. -/
theorem spells_iff {tok ds : List Char} :
    Spells tok ds ↔ ds = digitsOf tok ∧ ∀ c ∈ ds, c.isHexDigit = true := by
  constructor
  · intro h
    cases h with
    | @plain ds hds =>
      -- a token of hexadecimal digits has no `x` after its first digit
      refine ⟨(digitsOf_of_not_prefixed ?_).symm, hds⟩
      rintro ⟨x, rest, rfl, hx⟩
      have := hds x (by simp)
      rcases hx with rfl | rfl <;> revert this <;> decide
    | prefixed hx hds hlen => exact ⟨(digitsOf_prefixed hx hlen).symm, hds⟩
    | single hx hd =>
      refine ⟨(digitsOf_single hx _).symm, ?_⟩
      simp [hd]
      decide
  · rintro ⟨rfl, hds⟩
    by_cases hp : ∃ x ds, tok = '0' :: x :: ds ∧ (x = 'x' ∨ x = 'X')
    · obtain ⟨x, rest, rfl, hx⟩ := hp
      by_cases hlen : rest.length = 1
      · obtain ⟨d, rfl⟩ := List.length_eq_one_iff.mp hlen
        rw [digitsOf_single hx] at hds ⊢
        exact .single hx (hds d (by simp))
      · rw [digitsOf_prefixed hx hlen] at hds ⊢
        exact .prefixed hx hds hlen
    · rw [digitsOf_of_not_prefixed hp] at hds ⊢
      exact .plain hds

/-- Each character of lowercase hexadecimal text is the digit of a value below 16. -/
theorem exists_hexDigit_of_mem_bytesHex {bs : List UInt8} {c : Char}
    (h : c ∈ (Text.bytesHex bs).toList) : ∃ x < 16, c = Text.hexDigit x := by
  induction bs with
  | nil => simp at h
  | cons b bs ih =>
    rw [Text.toList_bytesHex_cons] at h
    rcases List.mem_cons.mp h with rfl | h
    · exact ⟨b.toNat / 16, by have := b.toNat_lt; omega, rfl⟩
    rcases List.mem_cons.mp h with rfl | h
    · exact ⟨b.toNat % 16, Nat.mod_lt _ (by omega), rfl⟩
    exact ih h

/-- Lowercase hexadecimal text is made of hexadecimal digits. -/
theorem isHexDigit_of_mem_bytesHex {bs : List UInt8} {c : Char}
    (h : c ∈ (Text.bytesHex bs).toList) : c.isHexDigit = true := by
  obtain ⟨x, hx, rfl⟩ := exists_hexDigit_of_mem_bytesHex h
  exact Text.isHexDigit_hexDigit hx

/-- Characters that lower to lowercase hexadecimal text are hexadecimal digits. -/
theorem isHexDigit_of_map_toLower {ds : List Char} {bs : List UInt8}
    (h : ds.map Char.toLower = (Text.bytesHex bs).toList) : ∀ c ∈ ds, c.isHexDigit = true := by
  intro c hc
  obtain ⟨x, hx, he⟩ := exists_hexDigit_of_mem_bytesHex (h ▸ List.mem_map_of_mem hc)
  rw [Text.isHexDigit_iff, (Text.hexValue?_eq_some_iff c x).mpr ⟨hx, he⟩]
  rfl

theorem length_bytesHex (bs : List UInt8) :
    (Text.bytesHex bs).toList.length = 2 * bs.length := by
  induction bs with
  | nil => simp
  | cons b bs ih => simp [Text.toList_bytesHex_cons, ih]; omega

/-- Tokens that spell digits spell the digits the scan takes from them. -/
theorem map_digitsOf_of_forall₂ {toks digs : List (List Char)}
    (h : List.Forall₂ Spells toks digs) : toks.map digitsOf = digs := by
  induction h with
  | nil => rfl
  | cons hs _ ih => rw [List.map_cons, ih, (spells_iff.mp hs).1]

/-- The digits of a text are those its tokens spell, joined. -/
theorem digits_eq (s : String) : digits s = ((tokens s.toList).map digitsOf).flatten := by
  rw [digits, tokens_trimBlank]

/-- Reading a text succeeds exactly when its digits spell the bytes. -/
theorem parse_eq_ok_iff_bytesOfHex? (s : String) (bs : List UInt8) :
    parse s = .ok bs ↔ Text.bytesOfHex? (digits s) = some bs := by
  unfold parse
  dsimp only
  split
  · next hodd =>
    -- digits that spell bytes are of even number
    simp only [reduceCtorEq, false_iff]
    intro h
    have := congrArg List.length ((Text.bytesOfHex?_eq_some_iff _ _).mp h)
    rw [List.length_map, length_bytesHex] at this
    omega
  · split <;> simp_all

/-- A text reads as bytes exactly when it reads as tokens that all spell hexadecimal digits, and
these digits joined and lowered are the lowercase hexadecimal text of the bytes. The count of
digits is even over the whole text, not over each token. -/
theorem parse_eq_ok_iff (s : String) (bs : List UInt8) :
    parse s = .ok bs ↔ ∃ toks digs, Tokenized s.toList toks ∧ List.Forall₂ Spells toks digs ∧
      digs.flatten.map Char.toLower = (Text.bytesHex bs).toList := by
  rw [parse_eq_ok_iff_bytesOfHex?, Text.bytesOfHex?_eq_some_iff, digits_eq]
  constructor
  · intro h
    refine ⟨tokens s.toList, (tokens s.toList).map digitsOf, tokenized_tokens _, ?_, h⟩
    -- each token spells its digits, all hexadecimal since the joined digits are
    have hhex := isHexDigit_of_map_toLower h
    rw [List.forall₂_map_right_iff, List.forall₂_same]
    intro tok htok
    exact spells_iff.mpr ⟨rfl, fun c hc =>
      hhex c (List.mem_flatten.mpr ⟨_, List.mem_map_of_mem htok, hc⟩)⟩
  · rintro ⟨toks, digs, htoks, hspells, h⟩
    rwa [htoks.tokens_eq, map_digitsOf_of_forall₂ hspells]

-- tokens of one digit each are half bytes, yet four of them make two bytes
example : parse "1 2 3 4" = .ok [0x12, 0x34] := by decide

/-! ### Written byte groups read back -/

/-- A hexadecimal digit separates no tokens. -/
theorem isSeparator_of_isHexDigit {c : Char} (h : c.isHexDigit = true) :
    isSeparator c = false := by
  have hn : ((48 ≤ c.toNat ∧ c.toNat ≤ 57) ∨ (97 ≤ c.toNat ∧ c.toNat ≤ 102)) ∨
      (65 ≤ c.toNat ∧ c.toNat ≤ 70) := by
    simpa [Char.isHexDigit, Char.isDigit, UInt32.le_iff_toNat_le, Char.toNat_val] using h
  simp only [isSeparator, Text.isBlank, Bool.or_eq_false_iff, beq_eq_false_iff_ne, ne_eq]
  refine ⟨⟨⟨⟨?_, fun he => ?_⟩, fun he => ?_⟩, fun he => ?_⟩, fun he => ?_⟩
  · simp only [Bool.and_eq_false_iff, decide_eq_false_iff_not]
    omega
  all_goals
    subst he
    revert hn
    decide

/-- How a group of bytes is written as one token: as its hexadecimal text, after a `0x` prefix,
or, for one byte below 16, as its one digit after the prefix. -/
def Writes (tok : List Char) (g : List UInt8) : Prop :=
  tok = (Text.bytesHex g).toList ∨ tok = '0' :: 'x' :: (Text.bytesHex g).toList ∨
    ∃ b : UInt8, g = [b] ∧ b.toNat < 16 ∧ tok = ['0', 'x', Text.hexDigit b.toNat]

/-- A written group spells the group's hexadecimal text. -/
theorem Writes.spells {tok : List Char} {g : List UInt8} (h : Writes tok g) :
    Spells tok (Text.bytesHex g).toList := by
  rcases h with rfl | rfl | ⟨b, rfl, hb, rfl⟩
  · exact .plain fun c hc => isHexDigit_of_mem_bytesHex hc
  · refine .prefixed (.inl rfl) (fun c hc => isHexDigit_of_mem_bytesHex hc) ?_
    rw [length_bytesHex]
    omega
  · have hdigits : (Text.bytesHex [b]).toList = ['0', Text.hexDigit b.toNat] := by
      rw [Text.toList_bytesHex_cons, Nat.div_eq_of_lt hb, Nat.mod_eq_of_lt hb]
      rfl
    rw [hdigits]
    exact .single (.inl rfl) (Text.isHexDigit_hexDigit hb)

/-- A written group of bytes is a token: not empty, and without separators. -/
theorem Writes.token {tok : List Char} {g : List UInt8} (h : Writes tok g) (hg : g ≠ []) :
    tok ≠ [] ∧ ∀ c ∈ tok, isSeparator c = false := by
  have hdigits : ∀ c ∈ (Text.bytesHex g).toList, isSeparator c = false :=
    fun c hc => isSeparator_of_isHexDigit (isHexDigit_of_mem_bytesHex hc)
  rcases h with rfl | rfl | ⟨b, rfl, hb, rfl⟩
  · obtain ⟨b, g, rfl⟩ := List.exists_cons_of_ne_nil hg
    exact ⟨by simp [Text.toList_bytesHex_cons], hdigits⟩
  · refine ⟨by simp, fun c hc => ?_⟩
    simp only [List.mem_cons] at hc
    rcases hc with rfl | rfl | hc
    · decide
    · decide
    · exact hdigits c hc
  · refine ⟨by simp, fun c hc => ?_⟩
    simp only [List.mem_cons, List.not_mem_nil, or_false] at hc
    rcases hc with rfl | rfl | rfl
    · decide
    · decide
    · exact isSeparator_of_isHexDigit (Text.isHexDigit_hexDigit hb)

/-- Tokens joined by a run of separators read as those tokens. -/
theorem tokenized_intercalate {sep : List Char} (hne : sep ≠ [])
    (hsep : ∀ c ∈ sep, isSeparator c = true) :
    ∀ {toks : List (List Char)}, (∀ t ∈ toks, t ≠ [] ∧ ∀ c ∈ t, isSeparator c = false) →
      Tokenized (sep.intercalate toks) toks
  | [], _ => .blank (by simp)
  | [t], ht => by
    have key := @Tokenized.token [] t [] [] (by simp) (ht t (by simp)).1 (ht t (by simp)).2
      (by simp) (.blank (by simp))
    simpa using key
  | t :: t' :: rest, ht => by
    have hrest : Tokenized (sep ++ sep.intercalate (t' :: rest)) (t' :: rest) := by
      rw [← tokens_eq_iff, tokens_separators_append hsep, tokens_eq_iff]
      exact tokenized_intercalate hne hsep fun u hu => ht u (List.mem_cons_of_mem _ hu)
    have hhead : ∀ c ∈ (sep ++ sep.intercalate (t' :: rest)).head?, isSeparator c = true := by
      obtain ⟨d, sep', rfl⟩ := List.exists_cons_of_ne_nil hne
      intro c hc
      simp only [List.cons_append, List.head?_cons, Option.mem_def, Option.some.injEq] at hc
      exact hsep c (hc ▸ List.mem_cons_self)
    have key := @Tokenized.token [] t _ _ (by simp) (ht t (by simp)).1 (ht t (by simp)).2
      hhead hrest
    simpa [List.append_assoc] using key

/-- Groups of bytes, each written as a token, and joined by a run of separators, read as the
bytes of the groups in order: `0167 0110`, `01:67:01:10`, `0x01,0x67` and `0x1, 0x67` read back
as the bytes they were written from. -/
theorem parse_intercalate {sep : List Char} (hne : sep ≠ [])
    (hsep : ∀ c ∈ sep, isSeparator c = true) {toks : List (List Char)}
    {gs : List (List UInt8)} (hw : List.Forall₂ Writes toks gs) (hgs : ∀ g ∈ gs, g ≠ []) :
    parse (String.ofList (sep.intercalate toks)) = .ok gs.flatten := by
  rw [parse_eq_ok_iff]
  refine ⟨toks, gs.map fun g => (Text.bytesHex g).toList, ?_, ?_, ?_⟩
  · -- every written group is a token
    have htoks : ∀ t ∈ toks, t ≠ [] ∧ ∀ c ∈ t, isSeparator c = false := by
      induction hw with
      | nil => simp
      | cons h _ ih =>
        intro t ht
        rcases List.mem_cons.mp ht with rfl | ht
        · exact h.token (hgs _ List.mem_cons_self)
        · exact ih (fun g hg => hgs g (List.mem_cons_of_mem _ hg)) t ht
    rw [String.toList_ofList]
    exact tokenized_intercalate hne hsep htoks
  · rw [List.forall₂_map_right_iff]
    exact hw.imp fun _ _ h => h.spells
  · -- the digits written are lowercase, so lowering keeps them
    rw [← Text.toList_bytesHex_flatten]
    exact List.map_congr_left (fun c hc => by
      obtain ⟨x, hx, rfl⟩ := exists_hexDigit_of_mem_bytesHex hc
      exact Text.toLower_hexDigit hx) |>.trans (List.map_id _)

/-- What a payload text reads as: exactly the bytes whose lowercase hexadecimal text is the
digits its tokens spell, joined and lowered; in particular, a text that writes byte groups as
tokens in any of the usual forms, joined by separators, reads as the bytes of the groups. -/
theorem parse_eq_ok_iff_spelled (s : String) (bs : List UInt8) :
    (parse s = .ok bs ↔
      ∃ toks digs, Tokenized s.toList toks ∧ List.Forall₂ Spells toks digs ∧
        digs.flatten.map Char.toLower = (Text.bytesHex bs).toList) ∧
    (∀ (sep : List Char) (toks : List (List Char)) (gs : List (List UInt8)), sep ≠ [] →
      (∀ c ∈ sep, isSeparator c = true) → List.Forall₂ Writes toks gs → (∀ g ∈ gs, g ≠ []) →
        s = String.ofList (sep.intercalate toks) → bs = gs.flatten → parse s = .ok bs) := by
  refine ⟨parse_eq_ok_iff s bs, fun _ _ _ hne hsep hw hgs hs hbs => ?_⟩
  rw [hs, hbs]
  exact parse_intercalate hne hsep hw hgs

/-- `0x1, 0x67` is the bytes `01 67` written as a one-digit and a two-digit token. -/
theorem parse_eq_ok_iff_spelled_prefixed :
    [',', ' '] ≠ [] ∧ (∀ c ∈ [',', ' '], isSeparator c = true) ∧
    List.Forall₂ Writes [['0', 'x', '1'], ['0', 'x', '6', '7']] [[0x01], [0x67]] ∧
    (∀ g ∈ [[(0x01 : UInt8)], [0x67]], g ≠ []) ∧
    parse (String.ofList ([',', ' '].intercalate [['0', 'x', '1'], ['0', 'x', '6', '7']])) =
      .ok [[(0x01 : UInt8)], [0x67]].flatten := by
  have hw : List.Forall₂ Writes [['0', 'x', '1'], ['0', 'x', '6', '7']] [[0x01], [0x67]] :=
    .cons (.inr (.inr ⟨0x01, rfl, by decide, by decide⟩)) (.cons (.inr (.inl (by decide))) .nil)
  have hsep : ∀ c ∈ [',', ' '], isSeparator c = true := by
    intro c hc
    simp only [List.mem_cons, List.not_mem_nil, or_false] at hc
    rcases hc with rfl | rfl <;> decide
  have hgs : ∀ g ∈ [[(0x01 : UInt8)], [0x67]], g ≠ [] := by simp
  exact ⟨by simp, hsep, hw, hgs,
    (parse_eq_ok_iff_spelled _ _).2 _ _ _ (by simp) hsep hw hgs rfl rfl⟩

end HexText

end LowPowerPayload
