import Mathlib
import LowPowerPayload.Decimal.Read
/-!
# The double nearest to a nonzero integer is not zero

A record field divides by its divisor as a double, and refuses a divisor that compares equal to
`0.0`. An integer divisor becomes the double nearest to it, `Decimal.ofInt`. By
`ofInt_beq_zero`, that double never compares equal to zero when the integer is not zero: it is
a normal double, or an infinity past the largest double.

The argument runs in the logical model of doubles. A double compares equal to zero exactly when
it unpacks to a zero (`beq_zero_iff`). The bits `nearest` builds for a positive integer have an
exponent field from `1` to `2046`, so they unpack to a normal double, and a normal double
survives packing, unpacking and negation.
-/

namespace LowPowerPayload.Decimal

open Float.Model UnpackedFloat

/-! ### Normal doubles in the model -/

/-- An unpacked double in normal position: a 53-bit mantissa and an exponent in the normal
range of binary64. -/
inductive Normal : UnpackedFloat → Prop
  | mk (s : Sign) (m : Nat) (e : Int) (h : 0 < m) (hlo : 2 ^ 52 ≤ m) (hhi : m < 2 ^ 53)
      (helo : -1074 ≤ e) (hehi : e ≤ 971) : Normal (.finite s m e h)

theorem Normal.neg {f : UnpackedFloat} (h : Normal f) : Normal f.neg := by
  cases h with
  | mk s m e hm hlo hhi helo hehi => exact .mk (-s) m e hm hlo hhi helo hehi

theorem sign_unpackSign_packComponents (s : Sign) (e : BitVec 11) (m : BitVec 52) :
    Sign.ofBitVec (unpackSign (packComponents .binary64 s e m)) = s := by
  simp only [unpackSign, packComponents, BitVec.extractLsb]
  rw [BitVec.extractLsb'_append_eq_of_le (by omega), BitVec.extractLsb'_append_eq_of_le (by omega)]
  cases s <;> rfl

theorem toNat_one_append {w : Nat} (v : BitVec w) : (1#1 ++ v).toNat = 2 ^ w + v.toNat := by
  rw [BitVec.toNat_append, ← Nat.shiftLeft_add_eq_or_of_lt v.isLt]
  simp [Nat.shiftLeft_eq]

/-- An exponent field from `1` to `2046` is neither all ones (infinities and NaN) nor all
zeros (zeros and subnormals). -/
theorem exponent_ne_of_toNat {x : BitVec 11} (h0 : 1 ≤ x.toNat) (h1 : x.toNat ≤ 2046) :
    x ≠ -1#11 ∧ x ≠ 0#11 := by
  constructor <;> intro heq <;> subst heq <;> simp at h0 h1

theorem binary64_bias : (Format.binary64.exponentBias : Int) = 1023 := rfl

/-- Bits whose exponent field is neither all zeros nor all ones unpack to a normal double. -/
theorem normal_unpack {b : BitVec Format.binary64.numBits} (h0 : 1 ≤ (unpackExponent b).toNat)
    (h1 : (unpackExponent b).toNat ≤ 2046) :
    Normal (unpack .binary64 b) := by
  obtain ⟨hne1, hne0⟩ := exponent_ne_of_toNat h0 h1
  have hm : (unpackMantissa b).toNat < 2 ^ 52 := (unpackMantissa b).isLt
  rw [UnpackedFloat.unpack]
  simp only [if_neg hne1, if_neg hne0]
  refine .mk _ _ _ _ ?_ ?_ ?_ ?_ <;> simp only [toNat_one_append, binary64_bias] <;> omega

/-- A normal double packs to bits that unpack to it again. -/
theorem unpack_pack_of_normal {f : UnpackedFloat} (h : Normal f) :
    unpack .binary64 (pack .binary64 f) = f := by
  cases h with
  | mk s m e hm hlo hhi helo hehi =>
    have hlog : m.log2 = 52 := (Nat.log2_eq_iff (by omega)).mpr ⟨hlo, hhi⟩
    have hbiased : (e + Format.binary64.exponentBias +
        Format.binary64.mantissaBitsWithoutImplicit).toNat = (e + 1075).toNat := by
      rw [binary64_bias]
      show (e + 1023 + 52).toNat = (e + 1075).toNat
      omega
    -- the exponent field written is `e + 1075`, from `1` to `2046`
    have hE : (BitVec.ofNat 11 (e + 1075).toNat).toNat = (e + 1075).toNat := by
      rw [BitVec.toNat_ofNat]
      exact Nat.mod_eq_of_lt (by omega)
    obtain ⟨hne1, hne0⟩ := exponent_ne_of_toNat (x := BitVec.ofNat 11 (e + 1075).toNat)
      (by omega) (by omega)
    rw [UnpackedFloat.pack]
    simp only [hlog, hbiased]
    rw [if_neg (by omega), if_pos (by simp [Format.mantissaBits])]
    rw [UnpackedFloat.unpack]
    simp only [unpackMantissa_packComponents, unpackExponent_packComponents,
      sign_unpackSign_packComponents, if_neg hne1, if_neg hne0]
    congr 1
    · rw [toNat_one_append, BitVec.toNat_ofNat]
      omega
    · rw [hE, binary64_bias]
      omega

theorem toNat_unpackExponent (b : BitVec Format.binary64.numBits) :
    (unpackExponent b).toNat = b.toNat / 2 ^ 52 % 2 ^ 11 := by
  simp [unpackExponent, BitVec.extractLsb_toNat, Nat.shiftRight_eq_div_pow]

/-! ### Doubles apart from zero -/

/-- A double that is normal or infinite. -/
def NormalOrInfinite (x : Float) : Prop :=
  Normal x.toModel.unpack ∨ ∃ s, x.toModel.unpack = .infinity s

/-- A double compares equal to `0.0` exactly when it unpacks to a zero of either sign. -/
theorem beq_zero_iff (x : Float) : (x == 0.0) = true ↔ ∃ s, x.toModel.unpack = .zero s := by
  show x.toModel.unpack.beq (.zero .positive) = true ↔ _
  cases x.toModel.unpack with
  | infinity s => cases s <;> simp [UnpackedFloat.beq, UnpackedFloat.compare]
  | notANumber => simp [UnpackedFloat.beq, UnpackedFloat.compare]
  | zero s => simp [UnpackedFloat.beq, UnpackedFloat.compare]
  | finite s m e h => cases s <;> simp [UnpackedFloat.beq, UnpackedFloat.compare]

theorem NormalOrInfinite.beq_zero {x : Float} (h : NormalOrInfinite x) : (x == 0.0) = false := by
  rw [Bool.eq_false_iff]
  intro hz
  obtain ⟨s, hs⟩ := (beq_zero_iff x).mp hz
  rcases h with h | ⟨t, ht⟩
  · rw [hs] at h
    cases h
  · rw [hs] at ht
    cases ht

theorem NormalOrInfinite.neg {x : Float} (h : NormalOrInfinite x) : NormalOrInfinite (-x) := by
  show Normal (unpack .binary64 (pack .binary64 x.toModel.unpack.neg)) ∨
    ∃ s, unpack .binary64 (pack .binary64 x.toModel.unpack.neg) = .infinity s
  rcases h with h | ⟨s, hs⟩
  · exact .inl ((unpack_pack_of_normal h.neg).symm ▸ h.neg)
  · rw [hs]
    cases s
    · exact .inr ⟨.positive, rfl⟩
    · exact .inr ⟨.negative, rfl⟩

theorem NormalOrInfinite.ite_neg (c : Prop) [Decidable c] {x : Float} (h : NormalOrInfinite x) :
    NormalOrInfinite (if c then -x else x) := by
  split
  · exact h.neg
  · exact h

theorem normalOrInfinite_infinity : NormalOrInfinite infinity := .inr ⟨.positive, rfl⟩

/-- Bits with an exponent field from `1` to `2046` make a normal double. -/
theorem normalOrInfinite_ofBits {bits : Nat} (hlo : 2 ^ 52 ≤ bits) (hhi : bits < 2047 * 2 ^ 52) :
    NormalOrInfinite (Float.ofBits (UInt64.ofNat bits)) := by
  have hbits : ((UInt64.ofNat bits).toBitVec : BitVec Format.binary64.numBits).toNat = bits := by
    rw [UInt64.toNat_toBitVec, UInt64.toNat_ofNat', Nat.mod_eq_of_lt (by omega)]
  have hE := toNat_unpackExponent (UInt64.ofNat bits).toBitVec
  rw [hbits] at hE
  have hn := normal_unpack (b := (UInt64.ofNat bits).toBitVec) (by omega) (by omega)
  left
  show Normal (unpack .binary64 (pack .binary64 (unpack .binary64 (UInt64.ofNat bits).toBitVec)))
  rw [unpack_pack_of_normal hn]
  exact hn

/-! ### The double nearest to an integer -/

theorem roundHalfEven_bounds (a b : Nat) :
    a / b ≤ roundHalfEven a b ∧ roundHalfEven a b ≤ a / b + 1 := by
  unfold roundHalfEven
  dsimp only
  repeat' split
  all_goals omega

/-- A quotient from `c` up to, not including, `2c` rounds to a value from `c` to `2c`. -/
theorem roundHalfEven_mem {a b c : Nat} (hb : 0 < b) (hlo : c * b ≤ a) (hhi : a < 2 * c * b) :
    c ≤ roundHalfEven a b ∧ roundHalfEven a b ≤ 2 * c := by
  have hq1 : c ≤ a / b := (Nat.le_div_iff_mul_le hb).mpr hlo
  have hq2 : a / b < 2 * c := (Nat.div_lt_iff_lt_mul hb).mpr hhi
  have := roundHalfEven_bounds a b
  omega

theorem binaryExponent_one {num : Nat} (h : num ≠ 0) : binaryExponent num 1 = num.log2 := by
  have hle := Nat.log2_self_le h
  have hone : Nat.log2 1 = 0 := (Nat.log2_eq_iff (by omega)).mpr ⟨by omega, by omega⟩
  simp [binaryExponent, hone, hle]

/-- From a mantissa of `2^52` to `2^53` and an exponent of at least `-1074`, `encodeBits` writes
an exponent field from `1` to `2046`, or gives up past the largest double. -/
theorem encodeBits_normal {m bits : Nat} {q : Int} (hlo : 2 ^ 52 ≤ m) (hhi : m ≤ 2 ^ 53)
    (hq : -1074 ≤ q) (h : encodeBits m q = some bits) : 2 ^ 52 ≤ bits ∧ bits < 2047 * 2 ^ 52 := by
  unfold encodeBits at h
  simp only [Nat.pow_eq] at h
  by_cases hm : m = 2 ^ 53
  · rw [if_pos hm] at h
    dsimp only at h
    repeat' split at h
    all_goals simp only [reduceCtorEq, Option.some.injEq] at h
    all_goals omega
  · rw [if_neg hm] at h
    dsimp only at h
    repeat' split at h
    all_goals simp only [reduceCtorEq, Option.some.injEq] at h
    all_goals omega

/-- An integer whose top bit is `2^L`, scaled to 53 bits (down by `2^(L - 52)` or up by
`2^(52 - L)`) and rounded, gives a mantissa from `2^52` to `2^53`. -/
theorem roundHalfEven_scaled_mem {num L : Nat} (hlo : 2 ^ L ≤ num) (hhi : num < 2 ^ (L + 1)) :
    let m := if 0 ≤ (L : Int) - 52 then roundHalfEven num (1 * 2 ^ ((L : Int) - 52).toNat)
      else roundHalfEven (num * 2 ^ (-((L : Int) - 52)).toNat) 1
    2 ^ 52 ≤ m ∧ m ≤ 2 ^ 53 := by
  have hsucc : 2 ^ (L + 1) = 2 * 2 ^ L := by rw [Nat.pow_succ]; omega
  dsimp only
  by_cases hL : 0 ≤ (L : Int) - 52
  · -- at least 53 bits: the integer is divided by `2^(L - 52)` and rounded
    rw [if_pos hL]
    have hk : 2 ^ 52 * 2 ^ ((L : Int) - 52).toNat = 2 ^ L := by
      rw [← Nat.pow_add]
      congr 1
      omega
    have hpos : 0 < 2 ^ ((L : Int) - 52).toNat := Nat.two_pow_pos _
    obtain ⟨hm1, hm2⟩ := roundHalfEven_mem (a := num) (b := 1 * 2 ^ ((L : Int) - 52).toNat)
      (c := 2 ^ 52) (by omega) (by omega) (by omega)
    omega
  · -- fewer bits: the integer is shifted up by `2^(52 - L)`, exactly
    rw [if_neg hL]
    have hk : 2 ^ L * 2 ^ (-((L : Int) - 52)).toNat = 2 ^ 52 := by
      rw [← Nat.pow_add]
      congr 1
      omega
    have hpos : 0 < 2 ^ (-((L : Int) - 52)).toNat := Nat.two_pow_pos _
    have h1 := Nat.mul_le_mul_right (2 ^ (-((L : Int) - 52)).toNat) hlo
    have h2 := Nat.mul_lt_mul_of_pos_right hhi hpos
    obtain ⟨hm1, hm2⟩ := roundHalfEven_mem (a := num * 2 ^ (-((L : Int) - 52)).toNat) (b := 1)
      (c := 2 ^ 52) (by omega) (by omega) (by rw [hsucc, Nat.mul_assoc, hk] at h2; omega)
    omega

/-- The double nearest to a positive integer is normal, or infinite past the largest double. -/
theorem nearest_one {num : Nat} (h : num ≠ 0) : NormalOrInfinite (nearest num 1) := by
  have hlo := Nat.log2_self_le h
  have hhi := Nat.lt_log2_self (n := num)
  unfold nearest
  rw [if_neg (by omega), binaryExponent_one h]
  dsimp only
  generalize num.log2 = L at hlo hhi
  rw [show max ((L : Int) - 52) (-1074) = (L : Int) - 52 by omega]
  split
  · next bits heq =>
    obtain ⟨hm1, hm2⟩ := roundHalfEven_scaled_mem hlo hhi
    obtain ⟨hb1, hb2⟩ := encodeBits_normal hm1 hm2 (by omega) heq
    exact normalOrInfinite_ofBits hb1 hb2
  · exact normalOrInfinite_infinity

/-- The double nearest to a nonzero integer is normal, or infinite past the largest double. -/
theorem ofInt_normalOrInfinite {n : Int} (h : n ≠ 0) : NormalOrInfinite (ofInt n) := by
  have hd : n.natAbs ≠ 0 := Int.natAbs_ne_zero.mpr h
  unfold ofInt ofDecimal
  dsimp only
  apply NormalOrInfinite.ite_neg
  -- nonzero digits are not below the least double, and with exponent zero the integer is read
  -- as it is unless it is past the largest double
  rw [if_neg (by omega)]
  split
  · exact normalOrInfinite_infinity
  · rw [if_pos (Int.le_refl 0)]
    simpa using nearest_one hd

/-- The double nearest to a nonzero integer does not compare equal to zero. -/
theorem ofInt_beq_zero {n : Int} (h : n ≠ 0) : (ofInt n == 0.0) = false :=
  (ofInt_normalOrInfinite h).beq_zero

end LowPowerPayload.Decimal
