import LowPowerPayload.Proofs.Faults
/-!
# Integer codecs

An integer encoding of `n` bytes reads its bytes most significant first: their value is the sum
of each byte times 256 to the number of bytes after it (`bigEndian_eq_sum`), and a two's
complement encoding takes `2^(8n)` off a value of at least `2^(8n-1)`. A codec is found by its
name after Unicode lowering: the encodings are matched on ASCII text only, and no other text
lowers to the name of one (`Encoding.ofName?_eq_some_iff`).

Sign extension to `bits` bits is the balanced residue: on a value from `0` below `2^bits` it
gives the one integer of `[-2^(bits-1), 2^(bits-1))` congruent to the value modulo `2^bits`
(`signExtend_eq_ok_iff`), as long as the powers of two it forms fit in the memory one integer
may take, whatever that memory; a width whose power cannot be formed fails with the fault of
forming it. The helpers for two and three bytes
read the first bytes of longer data as the codecs do (`int16_map_int`).

`integer_codecs_spec` collects these.
-/

namespace LowPowerPayload

/-! ### Big-endian values -/

/-- Reading more bytes after a value scales the value by a power of 256. -/
theorem foldl_bigEndian (a : Nat) (bs : List UInt8) :
    bs.foldl (fun acc b => acc * 256 + b.toNat) a = a * 256 ^ bs.length + bigEndian bs := by
  unfold bigEndian
  induction bs generalizing a with
  | nil => simp
  | cons b rest ih =>
    rw [List.foldl_cons, List.foldl_cons, ih (a * 256 + b.toNat), ih (0 * 256 + b.toNat),
      List.length_cons]
    ring

theorem bigEndian_cons (b : UInt8) (bs : List UInt8) :
    bigEndian (b :: bs) = b.toNat * 256 ^ bs.length + bigEndian bs := by
  conv_lhs => rw [bigEndian, List.foldl_cons, foldl_bigEndian]
  simp

/-- The big-endian value of bytes is the sum of each byte times 256 to the number of bytes after
it. -/
theorem bigEndian_eq_sum (bs : List UInt8) :
    bigEndian bs = ∑ i : Fin bs.length, bs[i].toNat * 256 ^ (bs.length - 1 - i) := by
  induction bs with
  | nil => simp [bigEndian]
  | cons b rest ih =>
    -- the sum over the longer string is its first term and the sum over the rest
    erw [bigEndian_cons, ih, Fin.sum_univ_succ]
    congr 1
    refine Finset.sum_congr rfl fun i _ => ?_
    -- byte `i + 1` of the longer string is byte `i` of the rest, with as many bytes after it
    simp only [Fin.val_succ, List.length_cons]
    congr 2
    omega

/-- Bytes have a value below 256 to the number of bytes. -/
theorem bigEndian_lt (bs : List UInt8) : bigEndian bs < 256 ^ bs.length := by
  induction bs with
  | nil => simp [bigEndian]
  | cons b rest ih =>
    rw [bigEndian_cons, List.length_cons, Nat.pow_succ]
    have hb : b.toNat < 256 := b.toNat_lt
    nlinarith

/-! ### Sign extension -/

theorem powerDigits_mono {s t : Nat} (h : s ≤ t) : powerDigits s ≤ powerDigits t := by
  have hdiv : s / 30 ≤ t / 30 := Nat.div_le_div_right h
  unfold powerDigits
  split <;> split <;> omega

/-- A power of two that can be formed can be formed at every smaller exponent. -/
theorem checkPower_of_le_of_ok {memory s t : Nat} (h : s ≤ t)
    (ht : checkPower memory t = .ok ()) : checkPower memory s = .ok () := by
  have hd := powerDigits_mono h
  unfold checkPower at ht ⊢
  split at ht
  · cases ht
  · split at ht
    · cases ht
    · rw [if_neg (by omega), if_neg (by omega)]

/-- On a value from `0` below `2^bits`, the balanced residue modulo `2^bits` takes `2^bits` off a
value of at least `2^(bits-1)` and keeps a smaller one. -/
theorem bmod_two_pow {v : Int} {bits : Nat} (h1 : 1 ≤ bits) (h0 : 0 ≤ v) (hv : v < 2 ^ bits) :
    Int.bmod v (2 ^ bits) = if 2 ^ (bits - 1) ≤ v then v - 2 ^ bits else v := by
  have hpow : (2 : Int) ^ bits = 2 * 2 ^ (bits - 1) := by
    rw [← pow_succ']
    congr 1
    omega
  have hmod : v % ((2 ^ bits : Nat) : Int) = v := by
    push_cast
    exact Int.emod_eq_of_lt h0 hv
  have hhalf : (((2 ^ bits : Nat) : Int) + 1) / 2 = 2 ^ (bits - 1) := by
    push_cast
    omega
  split
  · next hle =>
    rw [Int.bmod_neg _ _ (by omega), hmod]
    push_cast
    rfl
  · next hlt =>
    rw [Int.bmod_eq_emod_of_lt (by omega), hmod]

/-- For a positive number, `2^k ≤ n` exactly when `k` is at most its binary logarithm. -/
theorem two_pow_le_iff_le_log2 {n : Int} (h : 0 < n) (k : Nat) :
    (2 : Int) ^ k ≤ n ↔ k ≤ n.toNat.log2 := by
  rw [Nat.le_log2 (by omega)]
  constructor
  · intro hk
    have : ((2 ^ k : Nat) : Int) ≤ n := by exact_mod_cast hk
    omega
  · intro hk
    have : ((2 ^ k : Nat) : Int) ≤ n := by omega
    exact_mod_cast this

/-- Sign extension at a width whose power of two can be formed takes `2^bits` off a value of at
least `2^(bits-1)` and keeps any other value. -/
theorem signExtend_eq {memory : Nat} (v : Int) {bits : Nat} (h1 : 1 ≤ bits)
    (hpow : checkPower memory bits = .ok ()) :
    signExtend memory v bits = .ok (if 2 ^ (bits - 1) ≤ v then v - 2 ^ bits else v) := by
  have hlow : checkPower memory (bits - 1) = .ok () := checkPower_of_le_of_ok (by omega) hpow
  have hnonpos : ¬ ((bits : Int) ≤ 0) := by omega
  have htop : ((bits : Int) - 1).toNat = bits - 1 := by omega
  unfold signExtend
  simp only [bind, Except.bind, pure, Except.pure, if_neg hnonpos, hlow, Int.toNat_natCast, hpow,
    htop, Int.pow_eq]
  by_cases hbig : 2 ^ (bits - 1) ≤ v
  · have hpos : 0 < v := lt_of_lt_of_le (by positivity) hbig
    rw [if_pos ⟨hpos, (two_pow_le_iff_le_log2 hpos _).mp hbig⟩, if_pos hbig]
  · have hcond : ¬ (0 < v ∧ bits - 1 ≤ v.toNat.log2) := fun ⟨hpos, hle⟩ =>
      hbig ((two_pow_le_iff_le_log2 hpos _).mpr hle)
    rw [if_neg hcond, if_neg hbig]

/-- Sign extension of a value from `0` below `2^bits`, at a width whose power of two can be
formed, gives exactly the integer of `[-2^(bits-1), 2^(bits-1))` congruent to the value modulo
`2^bits`. -/
theorem signExtend_eq_ok_iff {memory : Nat} {v : Int} {bits : Nat} (h1 : 1 ≤ bits)
    (hpow : checkPower memory bits = .ok ()) (h0 : 0 ≤ v) (hv : v < 2 ^ bits) (r : Int) :
    signExtend memory v bits = .ok r ↔
      -2 ^ (bits - 1) ≤ r ∧ r < 2 ^ (bits - 1) ∧ r ≡ v [ZMOD 2 ^ bits] := by
  have hpow2 : (2 : Int) ^ bits = 2 * 2 ^ (bits - 1) := by
    rw [← pow_succ']
    congr 1
    omega
  have hhalf : ((2 ^ bits : Nat) : Int) / 2 = 2 ^ (bits - 1) := by
    push_cast
    omega
  have hhalf' : (((2 ^ bits : Nat) : Int) + 1) / 2 = 2 ^ (bits - 1) := by
    push_cast
    omega
  rw [signExtend_eq v h1 hpow, ← bmod_two_pow h1 h0 hv, Except.ok.injEq,
    Int.bmod_eq_iff (by positivity), hhalf, hhalf', Int.modEq_iff_dvd]
  push_cast
  constructor
  · rintro ⟨hlo, hhi, hdvd⟩
    exact ⟨hlo, hhi, by simpa using hdvd.neg_right⟩
  · rintro ⟨hlo, hhi, hdvd⟩
    exact ⟨hlo, hhi, by simpa using hdvd.neg_right⟩

/-- A width whose power `2^(bits-1)` cannot be formed fails sign extension with the fault of
forming it, whatever the value. -/
theorem signExtend_of_checkPower_error {memory bits : Nat} (h1 : 1 ≤ bits) {f : Fault}
    (hf : checkPower memory (bits - 1) = .error f) (v : Int) :
    signExtend memory v bits = .error f := by
  have hnonpos : ¬ ((bits : Int) ≤ 0) := by omega
  have htop : ((bits : Int) - 1).toNat = bits - 1 := by omega
  unfold signExtend
  simp only [bind, Except.bind, if_neg hnonpos, htop, hf]

/-! ### Encodings by name -/

namespace Encoding

/-- The characters the encoding names are made of. -/
def nameChars : List Char := ['u', 'i', 'n', 't', '8', '1', '6', '2', '4', '3', 'f', 'l', 'o', 'a',
  'd', 'b', 'e']

theorem mem_nameChars {e : Encoding} {x : Char} (h : x ∈ e.name.toList) : x ∈ nameChars := by
  cases e <;> simp only [name] at h <;> simp at h <;>
    rcases h with rfl | rfl | rfl | rfl | rfl | rfl <;> decide

theorem toNat_lt_of_mem_nameChars : ∀ x ∈ nameChars, x.toNat < 128 := by
  simp [nameChars]

theorem find?_name (e : Encoding) : all.find? (fun e' => e'.name == e.name) = some e := by
  cases e <;> rfl

/-- Every run of lowercase mappings past the ASCII letters starts past ASCII, and maps its code
points past ASCII too, except one run of a single code point whose image is no character of an
encoding name. -/
theorem lowerRuns_tail_images :
    (Text.lowerRuns.tail.all fun r => decide (128 ≤ r.start) &&
      (decide (128 ≤ (r.start : Int) + r.shift) ||
        decide (r.count = 1 ∧ Char.ofNat ((r.start : Int) + r.shift).toNat ∉ nameChars)))
      = true := by
  decide +kernel

/-- A code point is the character of that code point, or the null character when it is not a
valid one. -/
theorem toNat_ofNat_or (m : Nat) : (Char.ofNat m).toNat = m ∨ Char.ofNat m = '\x00' := by
  unfold Char.ofNat
  split
  · exact .inl (by simp [Char.ofNatAux, Char.toNat])
  · exact .inr rfl

/-- A code point at or past 128 is no character of an encoding name, as a character or as the
null character that an invalid code point becomes. -/
theorem ofNat_not_mem_nameChars {m : Nat} (h : 128 ≤ m) : Char.ofNat m ∉ nameChars := by
  intro hm
  rcases toNat_ofNat_or m with hval | hnull
  · have := toNat_lt_of_mem_nameChars _ hm
    omega
  · rw [hnull] at hm
    revert hm
    decide

/-- The lowercase form of a character past ASCII holds a character of no encoding name. -/
theorem exists_lowerChar_not_mem {c : Char} (hc : 128 ≤ c.toNat) :
    ∃ x ∈ Text.lowerChar c, x ∉ nameChars := by
  unfold Text.lowerChar
  split
  · exact ⟨Char.ofNat 0x307, by simp, ofNat_not_mem_nameChars (by norm_num)⟩
  · -- the first run maps the capital ASCII letters only, so a later run or none applies
    have hruns : Text.lowerRuns = ⟨0x41, 26, 32, 1⟩ :: Text.lowerRuns.tail := rfl
    have hfirst : (⟨0x41, 26, 32, 1⟩ : Text.CaseRun).apply c.toNat = none := by
      simp only [Text.CaseRun.apply]
      rw [if_neg (by omega)]
    rw [hruns, List.findSome?_cons, hfirst]
    split
    · next m hm =>
      obtain ⟨r, hr, happ⟩ := List.exists_of_findSome?_eq_some hm
      have hprop := List.all_eq_true.mp lowerRuns_tail_images r hr
      simp only [Bool.and_eq_true, Bool.or_eq_true, decide_eq_true_eq] at hprop
      simp only [Text.CaseRun.apply] at happ
      split at happ
      · next hin =>
        cases happ
        refine ⟨_, List.mem_singleton_self _, ?_⟩
        rcases hprop with ⟨-, hpast | ⟨hone, hname⟩⟩
        · exact ofNat_not_mem_nameChars (by omega)
        · -- a run of one code point covers its start only
          have hstart : c.toNat = r.start := by
            obtain ⟨hlo, hhi, hmod⟩ := hin
            rw [hone, Nat.one_mul] at hhi
            by_contra hne
            have hpos : 0 < c.toNat - r.start := by omega
            have := Nat.mod_eq_of_lt (show c.toNat - r.start < r.stride by omega)
            omega
          rw [hstart]
          simpa using hname
      · cases happ
    · exact ⟨c, List.mem_singleton_self _, fun hm => by
        have := toNat_lt_of_mem_nameChars _ hm
        omega⟩

/-- Lowering keeps what it has written, and for every character past ASCII it reads, writes a
character of no encoding name. -/
theorem lower_go_not_mem (cs before acc : List Char) :
    (∀ x ∈ acc, x ∈ Text.lower.go before acc cs) ∧
      ∀ c ∈ cs, 128 ≤ c.toNat → ∃ x ∈ Text.lower.go before acc cs, x ∉ nameChars := by
  induction cs generalizing before acc with
  | nil => exact ⟨fun x hx => by simp [Text.lower.go, hx], fun c hc => by cases hc⟩
  | cons c rest ih =>
    simp only [Text.lower.go]
    obtain ⟨hkeep, hrest⟩ := ih (c :: before)
      ((if c.toNat = 0x3A3 then [if Text.endsWord before rest then 'ς' else 'σ']
        else Text.lowerChar c).reverse ++ acc)
    refine ⟨fun x hx => hkeep x (List.mem_append_right _ hx), fun c' hc' hpast => ?_⟩
    rcases List.mem_cons.mp hc' with rfl | hmem
    · -- the character just read writes a character of no encoding name
      have hhere : ∃ x ∈ (if c'.toNat = 0x3A3 then [if Text.endsWord before rest then 'ς' else 'σ']
          else Text.lowerChar c'), x ∉ nameChars := by
        split
        · refine ⟨_, List.mem_singleton_self _, ?_⟩
          split <;> decide
        · exact exists_lowerChar_not_mem hpast
      obtain ⟨x, hx, hnot⟩ := hhere
      exact ⟨x, hkeep x (List.mem_append_left _ (List.mem_reverse.mpr hx)), hnot⟩
    · exact hrest c' hmem hpast

/-- A text holding a character past ASCII lowers to no encoding name. -/
theorem ascii_of_lower_eq_name {s : String} {e : Encoding} (h : Text.lower s = e.name) :
    ∀ c ∈ s.toList, c.toNat < 128 := by
  intro c hc
  by_contra hpast
  obtain ⟨x, hx, hnot⟩ := (lower_go_not_mem s.toList [] []).2 c hc (by omega)
  have hmem : x ∈ e.name.toList := by
    rw [← h, Text.lower, String.toList_ofList]
    exact hx
  exact hnot (mem_nameChars hmem)

/-- A name denotes an encoding exactly when it lowers, by the Unicode rules, to that encoding's
name. -/
theorem ofName?_eq_some_iff (s : String) (e : Encoding) : ofName? s = some e ↔ Text.lower s = e.name := by
  constructor
  · intro h
    unfold ofName? at h
    split at h
    · next hall =>
      have hasc : ∀ c ∈ s.toList, c.toNat < 128 := by simpa using hall
      have hfound := List.find?_some h
      simp only [beq_iff_eq] at hfound
      rw [Text.lower_of_ascii hasc, hfound]
    · cases h
  · intro h
    have hasc := ascii_of_lower_eq_name h
    unfold ofName?
    rw [if_pos (by simpa using hasc), ← Text.lower_of_ascii hasc, h]
    exact find?_name e

end Encoding

/-- A name that lowers to an encoding's name decodes bytes of that encoding's size and refuses
others with the length fault, quoting the name as given. -/
theorem decodeNamed_of_lower {s : String} {e : Encoding} (h : Text.lower s = e.name)
    (bs : List UInt8) :
    decodeNamed s bs =
      if bs.length = e.size then .ok (e.read bs) else .error (.lengthMismatch bs.length e.size s) := by
  have hnamed : Encoding.named s = .ok e := by
    simp [Encoding.named, (Encoding.ofName?_eq_some_iff s e).mpr h]
  simp only [decodeNamed, hnamed, bind, Except.bind]

/-- A name that lowers to no encoding's name is refused as unknown, quoted as given. -/
theorem decodeNamed_of_unknown {s : String} (h : ∀ e : Encoding, Text.lower s ≠ e.name)
    (bs : List UInt8) : decodeNamed s bs = .error (.unknownEncoding s) := by
  have hnone : Encoding.ofName? s = none := by
    cases hs : Encoding.ofName? s with
    | none => rfl
    | some e => exact absurd ((Encoding.ofName?_eq_some_iff s e).mp hs) (h e)
  simp [decodeNamed, Encoding.named, hnone, bind, Except.bind]

/-- An integer encoding reads the big-endian value of its bytes, less `2^(8n)` for a two's
complement encoding of `n` bytes when the value is at least `2^(8n-1)`. -/
theorem Encoding.read_of_isInteger {e : Encoding} (he : e.isInteger = true) (bs : List UInt8) :
    e.read bs = .int (if e.isSigned ∧ 2 ^ (8 * e.size - 1) ≤ bigEndian bs then
      (bigEndian bs : Int) - 2 ^ (8 * e.size) else bigEndian bs) := by
  cases e <;> simp only [isInteger, Bool.false_eq_true] at he <;>
    simp only [read, ge_iff_le, Nat.pow_eq, Int.pow_eq] <;> split <;> rfl

/-- Bytes of an encoding's size decode to the encoding's reading. -/
theorem Encoding.decode_of_length {e : Encoding} {bs : List UInt8} (h : bs.length = e.size) :
    e.decode bs = .ok (e.read bs) := by
  rw [Encoding.decode, if_pos h]

/-! ### The helpers for two and three bytes -/

theorem uint16_eq {bs : List UInt8} (h : 2 ≤ bs.length) : uint16 bs = .ok (bigEndian (bs.take 2)) := by
  match bs, h with
  | a :: b :: rest, _ =>
    simp [uint16, byteAt, bigEndian, bind, Except.bind, pure, Except.pure]

theorem uint24_eq {bs : List UInt8} (h : 3 ≤ bs.length) : uint24 bs = .ok (bigEndian (bs.take 3)) := by
  match bs, h with
  | a :: b :: c :: rest, _ =>
    simp [uint24, byteAt, bigEndian, bind, Except.bind, pure, Except.pure]
    ring

/-- The signed 16-bit helper is the two's-complement reading of the first two bytes. -/
theorem int16_eq {bs : List UInt8} (h : 2 ≤ bs.length) :
    int16 bs = .ok (if 2 ^ 15 ≤ (bigEndian (bs.take 2) : Int) then
      (bigEndian (bs.take 2) : Int) - 2 ^ 16 else bigEndian (bs.take 2)) := by
  have hext := signExtend_eq (bigEndian (bs.take 2) : Int) (by norm_num : 1 ≤ 16)
    (checkPower_of_le (by norm_num) thirtyTwo_le_memoryBytes)
  simpa [int16, uint16_eq h, bind, Except.bind] using hext

/-- The signed 24-bit helper is the two's-complement reading of the first three bytes. -/
theorem int24_eq {bs : List UInt8} (h : 3 ≤ bs.length) :
    int24 bs = .ok (if 2 ^ 23 ≤ (bigEndian (bs.take 3) : Int) then
      (bigEndian (bs.take 3) : Int) - 2 ^ 24 else bigEndian (bs.take 3)) := by
  have hext := signExtend_eq (bigEndian (bs.take 3) : Int) (by norm_num : 1 ≤ 24)
    (checkPower_of_le (by norm_num) thirtyTwo_le_memoryBytes)
  simpa [int24, uint24_eq h, bind, Except.bind] using hext

/-- On data of at least two bytes, the 16-bit helpers give what the 16-bit codecs read from the
first two bytes. -/
theorem int16_map_int {bs : List UInt8} (h : 2 ≤ bs.length) :
    (uint16 bs).map .int = Encoding.uint16.decode (bs.take 2) ∧
      (int16 bs).map .int = Encoding.int16.decode (bs.take 2) := by
  have hlen : (bs.take 2).length = 2 := by simp; omega
  refine ⟨?_, ?_⟩
  · rw [uint16_eq h, Encoding.decode_of_length (e := .uint16) hlen, Encoding.read_of_isInteger rfl]
    simp [Except.map, Encoding.isSigned]
  · rw [int16_eq h, Encoding.decode_of_length (e := .int16) hlen, Encoding.read_of_isInteger rfl]
    simp [Except.map, Encoding.isSigned, Encoding.size]

/-- On data of at least three bytes, the 24-bit helpers give what the 24-bit codecs read from the
first three bytes. -/
theorem int24_map_int {bs : List UInt8} (h : 3 ≤ bs.length) :
    (uint24 bs).map .int = Encoding.uint24.decode (bs.take 3) ∧
      (int24 bs).map .int = Encoding.int24.decode (bs.take 3) := by
  have hlen : (bs.take 3).length = 3 := by simp; omega
  refine ⟨?_, ?_⟩
  · rw [uint24_eq h, Encoding.decode_of_length (e := .uint24) hlen, Encoding.read_of_isInteger rfl]
    simp [Except.map, Encoding.isSigned]
  · rw [int24_eq h, Encoding.decode_of_length (e := .int24) hlen, Encoding.read_of_isInteger rfl]
    simp [Except.map, Encoding.isSigned, Encoding.size]

/-! ### The codecs together -/

/-- The integer codecs. Bytes read big-endian, as the sum of each byte times 256 to the number of
bytes after it. A name that lowers to an integer encoding's name decodes bytes of that encoding's
size to their value, less `2^(8n)` for a two's complement encoding of `n` bytes when the value is
at least `2^(8n-1)`, and refuses every other length with the length fault; a name that lowers to
no encoding's name is refused as unknown. Sign extension of a value from `0` below `2^bits`, at a
width whose power of two can be formed, gives exactly the integer of `[-2^(bits-1), 2^(bits-1))`
congruent to the value modulo `2^bits`, so it undoes reduction modulo `2^bits` on that range; at
a width whose power `2^(bits-1)` cannot be formed it fails as forming the power does. The helpers
for two and three bytes read the first bytes of longer data as the codecs read them. -/
theorem integer_codecs_spec :
    (∀ bs : List UInt8,
      bigEndian bs = ∑ i : Fin bs.length, bs[i].toNat * 256 ^ (bs.length - 1 - i)) ∧
    (∀ (s : String) (e : Encoding) (bs : List UInt8), Text.lower s = e.name →
      e.isInteger = true →
      decodeNamed s bs =
        if bs.length = e.size then
          .ok (.int (if e.isSigned ∧ 2 ^ (8 * e.size - 1) ≤ bigEndian bs then
            (bigEndian bs : Int) - 2 ^ (8 * e.size) else bigEndian bs))
        else .error (.lengthMismatch bs.length e.size s)) ∧
    (∀ (s : String) (bs : List UInt8), (∀ e : Encoding, Text.lower s ≠ e.name) →
      decodeNamed s bs = .error (.unknownEncoding s)) ∧
    (∀ (memory bits : Nat) (v r : Int), 1 ≤ bits → checkPower memory bits = .ok () → 0 ≤ v →
      v < 2 ^ bits → (signExtend memory v bits = .ok r ↔
        -2 ^ (bits - 1) ≤ r ∧ r < 2 ^ (bits - 1) ∧ r ≡ v [ZMOD 2 ^ bits])) ∧
    (∀ (memory bits : Nat) (r : Int), 1 ≤ bits → checkPower memory bits = .ok () →
      -2 ^ (bits - 1) ≤ r → r < 2 ^ (bits - 1) → signExtend memory (r % 2 ^ bits) bits = .ok r) ∧
    (∀ (memory bits : Nat) (v : Int) (f : Fault), 1 ≤ bits →
      checkPower memory (bits - 1) = .error f → signExtend memory v bits = .error f) ∧
    (∀ bs : List UInt8, 2 ≤ bs.length →
      (uint16 bs).map .int = Encoding.uint16.decode (bs.take 2) ∧
        (int16 bs).map .int = Encoding.int16.decode (bs.take 2)) ∧
    (∀ bs : List UInt8, 3 ≤ bs.length →
      (uint24 bs).map .int = Encoding.uint24.decode (bs.take 3) ∧
        (int24 bs).map .int = Encoding.int24.decode (bs.take 3)) := by
  refine ⟨bigEndian_eq_sum, fun s e bs hs he => ?_, fun s bs hs => decodeNamed_of_unknown hs bs,
    fun memory bits v r h1 hpow h0 hv => signExtend_eq_ok_iff h1 hpow h0 hv r,
    fun memory bits r h1 hpow hlo hhi => ?_,
    fun memory bits v f h1 hf => signExtend_of_checkPower_error h1 hf v,
    fun bs h => int16_map_int h, fun bs h => int24_map_int h⟩
  · rw [decodeNamed_of_lower hs, Encoding.read_of_isInteger he]
  · -- the residue of `r` lies from `0` below `2^bits` and is congruent to `r`
    have hm : (0 : Int) < 2 ^ bits := by positivity
    exact (signExtend_eq_ok_iff h1 hpow (Int.emod_nonneg _ hm.ne') (Int.emod_lt_of_pos _ hm) r).mpr
      ⟨hlo, hhi, (Int.mod_modEq r _).symm⟩

/-- Sign extension to `2^63` bits runs out of the codec's memory forming `2^(2^63 - 1)`, even
for the value `5`, which that width holds. -/
theorem signExtend_wide_out_of_memory : signExtend memoryBytes 5 (2 ^ 63) = .error .outOfMemory := by
  decide

end LowPowerPayload
