import LowPowerPayload.Text.Cased
/-!
# Lowercase

`lower` maps every character of a text to its lowercase form, as Unicode 14.0 gives the
simple lowercase mappings; the one character whose full lowercase form is two characters,
capital I with dot above, becomes `i` followed by the combining dot above. A capital sigma
becomes the final sigma `ς` where it ends a word (`endsWord`), and `σ` elsewhere.

The mappings come in runs: `count` code points from `start`, `stride` apart, each mapped to the
code point `shift` away.
-/

namespace LowPowerPayload.Text

/-- A run of lowercase mappings. -/
structure CaseRun where
  start : Nat
  count : Nat
  shift : Int
  stride : Nat

/-- The runs of simple lowercase mappings, by ascending start. -/
def lowerRuns : List CaseRun :=
  [⟨0x41, 26, 32, 1⟩, ⟨0xC0, 23, 32, 1⟩, ⟨0xD8, 7, 32, 1⟩, ⟨0x100, 24, 1, 2⟩, ⟨0x132, 3, 1, 2⟩,
   ⟨0x139, 8, 1, 2⟩, ⟨0x14A, 23, 1, 2⟩, ⟨0x178, 1, -121, 1⟩, ⟨0x179, 3, 1, 2⟩,
   ⟨0x181, 1, 210, 1⟩, ⟨0x182, 2, 1, 2⟩, ⟨0x186, 1, 206, 1⟩, ⟨0x187, 1, 1, 1⟩,
   ⟨0x189, 2, 205, 1⟩, ⟨0x18B, 1, 1, 1⟩, ⟨0x18E, 1, 79, 1⟩, ⟨0x18F, 1, 202, 1⟩,
   ⟨0x190, 1, 203, 1⟩, ⟨0x191, 1, 1, 1⟩, ⟨0x193, 1, 205, 1⟩, ⟨0x194, 1, 207, 1⟩,
   ⟨0x196, 1, 211, 1⟩, ⟨0x197, 1, 209, 1⟩, ⟨0x198, 1, 1, 1⟩, ⟨0x19C, 1, 211, 1⟩,
   ⟨0x19D, 1, 213, 1⟩, ⟨0x19F, 1, 214, 1⟩, ⟨0x1A0, 3, 1, 2⟩, ⟨0x1A6, 1, 218, 1⟩,
   ⟨0x1A7, 1, 1, 1⟩, ⟨0x1A9, 1, 218, 1⟩, ⟨0x1AC, 1, 1, 1⟩, ⟨0x1AE, 1, 218, 1⟩,
   ⟨0x1AF, 1, 1, 1⟩, ⟨0x1B1, 2, 217, 1⟩, ⟨0x1B3, 2, 1, 2⟩, ⟨0x1B7, 1, 219, 1⟩,
   ⟨0x1B8, 1, 1, 1⟩, ⟨0x1BC, 1, 1, 1⟩, ⟨0x1C4, 1, 2, 1⟩, ⟨0x1C5, 1, 1, 1⟩, ⟨0x1C7, 1, 2, 1⟩,
   ⟨0x1C8, 1, 1, 1⟩, ⟨0x1CA, 1, 2, 1⟩, ⟨0x1CB, 9, 1, 2⟩, ⟨0x1DE, 9, 1, 2⟩, ⟨0x1F1, 1, 2, 1⟩,
   ⟨0x1F2, 2, 1, 2⟩, ⟨0x1F6, 1, -97, 1⟩, ⟨0x1F7, 1, -56, 1⟩, ⟨0x1F8, 20, 1, 2⟩,
   ⟨0x220, 1, -130, 1⟩, ⟨0x222, 9, 1, 2⟩, ⟨0x23A, 1, 10795, 1⟩, ⟨0x23B, 1, 1, 1⟩,
   ⟨0x23D, 1, -163, 1⟩, ⟨0x23E, 1, 10792, 1⟩, ⟨0x241, 1, 1, 1⟩, ⟨0x243, 1, -195, 1⟩,
   ⟨0x244, 1, 69, 1⟩, ⟨0x245, 1, 71, 1⟩, ⟨0x246, 5, 1, 2⟩, ⟨0x370, 2, 1, 2⟩, ⟨0x376, 1, 1, 1⟩,
   ⟨0x37F, 1, 116, 1⟩, ⟨0x386, 1, 38, 1⟩, ⟨0x388, 3, 37, 1⟩, ⟨0x38C, 1, 64, 1⟩,
   ⟨0x38E, 2, 63, 1⟩, ⟨0x391, 17, 32, 1⟩, ⟨0x3A3, 9, 32, 1⟩, ⟨0x3CF, 1, 8, 1⟩,
   ⟨0x3D8, 12, 1, 2⟩, ⟨0x3F4, 1, -60, 1⟩, ⟨0x3F7, 1, 1, 1⟩, ⟨0x3F9, 1, -7, 1⟩,
   ⟨0x3FA, 1, 1, 1⟩, ⟨0x3FD, 3, -130, 1⟩, ⟨0x400, 16, 80, 1⟩, ⟨0x410, 32, 32, 1⟩,
   ⟨0x460, 17, 1, 2⟩, ⟨0x48A, 27, 1, 2⟩, ⟨0x4C0, 1, 15, 1⟩, ⟨0x4C1, 7, 1, 2⟩,
   ⟨0x4D0, 48, 1, 2⟩, ⟨0x531, 38, 48, 1⟩, ⟨0x10A0, 38, 7264, 1⟩, ⟨0x10C7, 1, 7264, 1⟩,
   ⟨0x10CD, 1, 7264, 1⟩, ⟨0x13A0, 80, 38864, 1⟩, ⟨0x13F0, 6, 8, 1⟩, ⟨0x1C90, 43, -3008, 1⟩,
   ⟨0x1CBD, 3, -3008, 1⟩, ⟨0x1E00, 75, 1, 2⟩, ⟨0x1E9E, 1, -7615, 1⟩, ⟨0x1EA0, 48, 1, 2⟩,
   ⟨0x1F08, 8, -8, 1⟩, ⟨0x1F18, 6, -8, 1⟩, ⟨0x1F28, 8, -8, 1⟩, ⟨0x1F38, 8, -8, 1⟩,
   ⟨0x1F48, 6, -8, 1⟩, ⟨0x1F59, 4, -8, 2⟩, ⟨0x1F68, 8, -8, 1⟩, ⟨0x1F88, 8, -8, 1⟩,
   ⟨0x1F98, 8, -8, 1⟩, ⟨0x1FA8, 8, -8, 1⟩, ⟨0x1FB8, 2, -8, 1⟩, ⟨0x1FBA, 2, -74, 1⟩,
   ⟨0x1FBC, 1, -9, 1⟩, ⟨0x1FC8, 4, -86, 1⟩, ⟨0x1FCC, 1, -9, 1⟩, ⟨0x1FD8, 2, -8, 1⟩,
   ⟨0x1FDA, 2, -100, 1⟩, ⟨0x1FE8, 2, -8, 1⟩, ⟨0x1FEA, 2, -112, 1⟩, ⟨0x1FEC, 1, -7, 1⟩,
   ⟨0x1FF8, 2, -128, 1⟩, ⟨0x1FFA, 2, -126, 1⟩, ⟨0x1FFC, 1, -9, 1⟩, ⟨0x2126, 1, -7517, 1⟩,
   ⟨0x212A, 1, -8383, 1⟩, ⟨0x212B, 1, -8262, 1⟩, ⟨0x2132, 1, 28, 1⟩, ⟨0x2160, 16, 16, 1⟩,
   ⟨0x2183, 1, 1, 1⟩, ⟨0x24B6, 26, 26, 1⟩, ⟨0x2C00, 48, 48, 1⟩, ⟨0x2C60, 1, 1, 1⟩,
   ⟨0x2C62, 1, -10743, 1⟩, ⟨0x2C63, 1, -3814, 1⟩, ⟨0x2C64, 1, -10727, 1⟩, ⟨0x2C67, 3, 1, 2⟩,
   ⟨0x2C6D, 1, -10780, 1⟩, ⟨0x2C6E, 1, -10749, 1⟩, ⟨0x2C6F, 1, -10783, 1⟩,
   ⟨0x2C70, 1, -10782, 1⟩, ⟨0x2C72, 1, 1, 1⟩, ⟨0x2C75, 1, 1, 1⟩, ⟨0x2C7E, 2, -10815, 1⟩,
   ⟨0x2C80, 50, 1, 2⟩, ⟨0x2CEB, 2, 1, 2⟩, ⟨0x2CF2, 1, 1, 1⟩, ⟨0xA640, 23, 1, 2⟩,
   ⟨0xA680, 14, 1, 2⟩, ⟨0xA722, 7, 1, 2⟩, ⟨0xA732, 31, 1, 2⟩, ⟨0xA779, 2, 1, 2⟩,
   ⟨0xA77D, 1, -35332, 1⟩, ⟨0xA77E, 5, 1, 2⟩, ⟨0xA78B, 1, 1, 1⟩, ⟨0xA78D, 1, -42280, 1⟩,
   ⟨0xA790, 2, 1, 2⟩, ⟨0xA796, 10, 1, 2⟩, ⟨0xA7AA, 1, -42308, 1⟩, ⟨0xA7AB, 1, -42319, 1⟩,
   ⟨0xA7AC, 1, -42315, 1⟩, ⟨0xA7AD, 1, -42305, 1⟩, ⟨0xA7AE, 1, -42308, 1⟩,
   ⟨0xA7B0, 1, -42258, 1⟩, ⟨0xA7B1, 1, -42282, 1⟩, ⟨0xA7B2, 1, -42261, 1⟩, ⟨0xA7B3, 1, 928, 1⟩,
   ⟨0xA7B4, 8, 1, 2⟩, ⟨0xA7C4, 1, -48, 1⟩, ⟨0xA7C5, 1, -42307, 1⟩, ⟨0xA7C6, 1, -35384, 1⟩,
   ⟨0xA7C7, 2, 1, 2⟩, ⟨0xA7D0, 1, 1, 1⟩, ⟨0xA7D6, 2, 1, 2⟩, ⟨0xA7F5, 1, 1, 1⟩,
   ⟨0xFF21, 26, 32, 1⟩, ⟨0x10400, 40, 40, 1⟩, ⟨0x104B0, 36, 40, 1⟩, ⟨0x10570, 11, 39, 1⟩,
   ⟨0x1057C, 15, 39, 1⟩, ⟨0x1058C, 7, 39, 1⟩, ⟨0x10594, 2, 39, 1⟩, ⟨0x10C80, 51, 64, 1⟩,
   ⟨0x118A0, 32, 32, 1⟩, ⟨0x16E40, 32, 32, 1⟩, ⟨0x1E900, 34, 34, 1⟩]

/-- The lowercase code point a run gives a code point, if the run covers it. -/
def CaseRun.apply (r : CaseRun) (n : Nat) : Option Nat :=
  if r.start ≤ n ∧ n < r.start + r.count * r.stride ∧ (n - r.start) % r.stride = 0 then
    some (n + r.shift).toNat
  else none

/-- The lowercase form of a character, one or two characters. -/
def lowerChar (c : Char) : List Char :=
  if c.toNat = 0x130 then ['i', Char.ofNat 0x307]
  else match lowerRuns.findSome? (fun r => r.apply c.toNat) with
    | some n => [Char.ofNat n]
    | none => [c]

/-- Whether a capital sigma ends a word, given the characters before it (nearest first) and
after it: past the case-ignorable characters, a cased letter stands before it and none after
it. -/
def endsWord (before after : List Char) : Bool :=
  (match before.dropWhile isCaseIgnorable with
    | c :: _ => isCasedLetter c
    | [] => false) &&
  (match after.dropWhile isCaseIgnorable with
    | c :: _ => !isCasedLetter c
    | [] => true)

/-- The lowercase form of a text. -/
def lower (s : String) : String := String.ofList (go [] [] s.toList)
where
  /-- Lowers the rest of a text, given the characters before it (nearest first) and the
  lowered characters so far (reversed). -/
  go (before acc : List Char) : List Char → List Char
    | [] => acc.reverse
    | c :: rest =>
      let here :=
        if c.toNat = 0x3A3 then [if endsWord before rest then 'ς' else 'σ'] else lowerChar c
      go (c :: before) (here.reverse ++ acc) rest

end LowPowerPayload.Text
