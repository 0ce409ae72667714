/-! Characters that differ only in case, by Unicode's simple case folding. -/
namespace SchedLatency.Text

/-- Pairs of characters that fold to the same: `count` pairs, of which the first is `one` and
`other` and each further one lies `stride` code points behind. -/
structure CaseRun where
  one : Nat
  other : Nat
  count : Nat
  stride : Nat
  deriving DecidableEq, Repr

namespace CaseRun

def place? (r : CaseRun) (first n : Nat) : Option Nat :=
  if first ≤ n ∧ (n - first) % r.stride = 0 ∧ (n - first) / r.stride < r.count then some (n - first)
  else none

def partners (r : CaseRun) (n : Nat) : List Nat :=
  ((r.place? r.one n).map (r.other + ·)).toList ++ ((r.place? r.other n).map (r.one + ·)).toList

end CaseRun

def caseRuns : List CaseRun := [
  ⟨0x0041, 0x0061, 26, 1⟩, ⟨0x004B, 0x212A, 1, 1⟩, ⟨0x0053, 0x017F, 1, 1⟩, ⟨0x006B, 0x212A, 1, 1⟩,
  ⟨0x0073, 0x017F, 1, 1⟩, ⟨0x00B5, 0x039C, 1, 1⟩, ⟨0x00B5, 0x03BC, 1, 1⟩, ⟨0x00C0, 0x00E0, 23, 1⟩,
  ⟨0x00C5, 0x212B, 1, 1⟩, ⟨0x00D8, 0x00F8, 7, 1⟩, ⟨0x00DF, 0x1E9E, 1, 1⟩, ⟨0x00E5, 0x212B, 1, 1⟩,
  ⟨0x00FF, 0x0178, 1, 1⟩, ⟨0x0100, 0x0101, 24, 2⟩, ⟨0x0132, 0x0133, 3, 2⟩, ⟨0x0139, 0x013A, 8, 2⟩,
  ⟨0x014A, 0x014B, 23, 2⟩, ⟨0x0179, 0x017A, 3, 2⟩, ⟨0x0180, 0x0243, 1, 1⟩, ⟨0x0181, 0x0253, 1, 1⟩,
  ⟨0x0182, 0x0183, 2, 2⟩, ⟨0x0186, 0x0254, 1, 1⟩, ⟨0x0187, 0x0188, 1, 1⟩, ⟨0x0189, 0x0256, 2, 1⟩,
  ⟨0x018B, 0x018C, 1, 1⟩, ⟨0x018E, 0x01DD, 1, 1⟩, ⟨0x018F, 0x0259, 1, 1⟩, ⟨0x0190, 0x025B, 1, 1⟩,
  ⟨0x0191, 0x0192, 1, 1⟩, ⟨0x0193, 0x0260, 1, 1⟩, ⟨0x0194, 0x0263, 1, 1⟩, ⟨0x0195, 0x01F6, 1, 1⟩,
  ⟨0x0196, 0x0269, 1, 1⟩, ⟨0x0197, 0x0268, 1, 1⟩, ⟨0x0198, 0x0199, 1, 1⟩, ⟨0x019A, 0x023D, 1, 1⟩,
  ⟨0x019B, 0xA7DC, 1, 1⟩, ⟨0x019C, 0x026F, 1, 1⟩, ⟨0x019D, 0x0272, 1, 1⟩, ⟨0x019E, 0x0220, 1, 1⟩,
  ⟨0x019F, 0x0275, 1, 1⟩, ⟨0x01A0, 0x01A1, 3, 2⟩, ⟨0x01A6, 0x0280, 1, 1⟩, ⟨0x01A7, 0x01A8, 1, 1⟩,
  ⟨0x01A9, 0x0283, 1, 1⟩, ⟨0x01AC, 0x01AD, 1, 1⟩, ⟨0x01AE, 0x0288, 1, 1⟩, ⟨0x01AF, 0x01B0, 1, 1⟩,
  ⟨0x01B1, 0x028A, 2, 1⟩, ⟨0x01B3, 0x01B4, 2, 2⟩, ⟨0x01B7, 0x0292, 1, 1⟩, ⟨0x01B8, 0x01B9, 1, 1⟩,
  ⟨0x01BC, 0x01BD, 1, 1⟩, ⟨0x01BF, 0x01F7, 1, 1⟩, ⟨0x01C4, 0x01C5, 2, 1⟩, ⟨0x01C4, 0x01C6, 1, 1⟩,
  ⟨0x01C7, 0x01C8, 2, 1⟩, ⟨0x01C7, 0x01C9, 1, 1⟩, ⟨0x01CA, 0x01CB, 2, 1⟩, ⟨0x01CA, 0x01CC, 1, 1⟩,
  ⟨0x01CD, 0x01CE, 8, 2⟩, ⟨0x01DE, 0x01DF, 9, 2⟩, ⟨0x01F1, 0x01F2, 2, 1⟩, ⟨0x01F1, 0x01F3, 1, 1⟩,
  ⟨0x01F4, 0x01F5, 1, 1⟩, ⟨0x01F8, 0x01F9, 20, 2⟩, ⟨0x0222, 0x0223, 9, 2⟩, ⟨0x023A, 0x2C65, 1, 1⟩,
  ⟨0x023B, 0x023C, 1, 1⟩, ⟨0x023E, 0x2C66, 1, 1⟩, ⟨0x023F, 0x2C7E, 2, 1⟩, ⟨0x0241, 0x0242, 1, 1⟩,
  ⟨0x0244, 0x0289, 1, 1⟩, ⟨0x0245, 0x028C, 1, 1⟩, ⟨0x0246, 0x0247, 5, 2⟩, ⟨0x0250, 0x2C6F, 1, 1⟩,
  ⟨0x0251, 0x2C6D, 1, 1⟩, ⟨0x0252, 0x2C70, 1, 1⟩, ⟨0x025C, 0xA7AB, 1, 1⟩, ⟨0x0261, 0xA7AC, 1, 1⟩,
  ⟨0x0264, 0xA7CB, 1, 1⟩, ⟨0x0265, 0xA78D, 1, 1⟩, ⟨0x0266, 0xA7AA, 1, 1⟩, ⟨0x026A, 0xA7AE, 1, 1⟩,
  ⟨0x026B, 0x2C62, 1, 1⟩, ⟨0x026C, 0xA7AD, 1, 1⟩, ⟨0x0271, 0x2C6E, 1, 1⟩, ⟨0x027D, 0x2C64, 1, 1⟩,
  ⟨0x0282, 0xA7C5, 1, 1⟩, ⟨0x0287, 0xA7B1, 1, 1⟩, ⟨0x029D, 0xA7B2, 1, 1⟩, ⟨0x029E, 0xA7B0, 1, 1⟩,
  ⟨0x0345, 0x0399, 1, 1⟩, ⟨0x0345, 0x03B9, 1, 1⟩, ⟨0x0345, 0x1FBE, 1, 1⟩, ⟨0x0370, 0x0371, 2, 2⟩,
  ⟨0x0376, 0x0377, 1, 1⟩, ⟨0x037B, 0x03FD, 3, 1⟩, ⟨0x037F, 0x03F3, 1, 1⟩, ⟨0x0386, 0x03AC, 1, 1⟩,
  ⟨0x0388, 0x03AD, 3, 1⟩, ⟨0x038C, 0x03CC, 1, 1⟩, ⟨0x038E, 0x03CD, 2, 1⟩, ⟨0x0390, 0x1FD3, 1, 1⟩,
  ⟨0x0391, 0x03B1, 17, 1⟩, ⟨0x0392, 0x03D0, 1, 1⟩, ⟨0x0395, 0x03F5, 1, 1⟩, ⟨0x0398, 0x03D1, 1, 1⟩,
  ⟨0x0398, 0x03F4, 1, 1⟩, ⟨0x0399, 0x1FBE, 1, 1⟩, ⟨0x039A, 0x03F0, 1, 1⟩, ⟨0x03A0, 0x03D6, 1, 1⟩,
  ⟨0x03A1, 0x03F1, 1, 1⟩, ⟨0x03A3, 0x03C2, 1, 1⟩, ⟨0x03A3, 0x03C3, 9, 1⟩, ⟨0x03A6, 0x03D5, 1, 1⟩,
  ⟨0x03A9, 0x2126, 1, 1⟩, ⟨0x03B0, 0x1FE3, 1, 1⟩, ⟨0x03B2, 0x03D0, 1, 1⟩, ⟨0x03B5, 0x03F5, 1, 1⟩,
  ⟨0x03B8, 0x03D1, 1, 1⟩, ⟨0x03B8, 0x03F4, 1, 1⟩, ⟨0x03B9, 0x1FBE, 1, 1⟩, ⟨0x03BA, 0x03F0, 1, 1⟩,
  ⟨0x03C0, 0x03D6, 1, 1⟩, ⟨0x03C1, 0x03F1, 1, 1⟩, ⟨0x03C2, 0x03C3, 1, 1⟩, ⟨0x03C6, 0x03D5, 1, 1⟩,
  ⟨0x03C9, 0x2126, 1, 1⟩, ⟨0x03CF, 0x03D7, 1, 1⟩, ⟨0x03D1, 0x03F4, 1, 1⟩, ⟨0x03D8, 0x03D9, 12, 2⟩,
  ⟨0x03F2, 0x03F9, 1, 1⟩, ⟨0x03F7, 0x03F8, 1, 1⟩, ⟨0x03FA, 0x03FB, 1, 1⟩, ⟨0x0400, 0x0450, 16, 1⟩,
  ⟨0x0410, 0x0430, 32, 1⟩, ⟨0x0412, 0x1C80, 1, 1⟩, ⟨0x0414, 0x1C81, 1, 1⟩, ⟨0x041E, 0x1C82, 1, 1⟩,
  ⟨0x0421, 0x1C83, 2, 1⟩, ⟨0x0422, 0x1C85, 1, 1⟩, ⟨0x042A, 0x1C86, 1, 1⟩, ⟨0x0432, 0x1C80, 1, 1⟩,
  ⟨0x0434, 0x1C81, 1, 1⟩, ⟨0x043E, 0x1C82, 1, 1⟩, ⟨0x0441, 0x1C83, 2, 1⟩, ⟨0x0442, 0x1C85, 1, 1⟩,
  ⟨0x044A, 0x1C86, 1, 1⟩, ⟨0x0460, 0x0461, 17, 2⟩, ⟨0x0462, 0x1C87, 1, 1⟩, ⟨0x0463, 0x1C87, 1, 1⟩,
  ⟨0x048A, 0x048B, 27, 2⟩, ⟨0x04C0, 0x04CF, 1, 1⟩, ⟨0x04C1, 0x04C2, 7, 2⟩,
  ⟨0x04D0, 0x04D1, 48, 2⟩, ⟨0x0531, 0x0561, 38, 1⟩, ⟨0x10A0, 0x2D00, 38, 1⟩,
  ⟨0x10C7, 0x2D27, 1, 1⟩, ⟨0x10CD, 0x2D2D, 1, 1⟩, ⟨0x10D0, 0x1C90, 43, 1⟩, ⟨0x10FD, 0x1CBD, 3, 1⟩,
  ⟨0x13A0, 0xAB70, 80, 1⟩, ⟨0x13F0, 0x13F8, 6, 1⟩, ⟨0x1C84, 0x1C85, 1, 1⟩, ⟨0x1C88, 0xA64A, 1, 1⟩,
  ⟨0x1C88, 0xA64B, 1, 1⟩, ⟨0x1C89, 0x1C8A, 1, 1⟩, ⟨0x1D79, 0xA77D, 1, 1⟩, ⟨0x1D7D, 0x2C63, 1, 1⟩,
  ⟨0x1D8E, 0xA7C6, 1, 1⟩, ⟨0x1E00, 0x1E01, 75, 2⟩, ⟨0x1E60, 0x1E9B, 1, 1⟩, ⟨0x1E61, 0x1E9B, 1, 1⟩,
  ⟨0x1EA0, 0x1EA1, 48, 2⟩, ⟨0x1F00, 0x1F08, 8, 1⟩, ⟨0x1F10, 0x1F18, 6, 1⟩, ⟨0x1F20, 0x1F28, 8, 1⟩,
  ⟨0x1F30, 0x1F38, 8, 1⟩, ⟨0x1F40, 0x1F48, 6, 1⟩, ⟨0x1F51, 0x1F59, 4, 2⟩, ⟨0x1F60, 0x1F68, 8, 1⟩,
  ⟨0x1F70, 0x1FBA, 2, 1⟩, ⟨0x1F72, 0x1FC8, 4, 1⟩, ⟨0x1F76, 0x1FDA, 2, 1⟩, ⟨0x1F78, 0x1FF8, 2, 1⟩,
  ⟨0x1F7A, 0x1FEA, 2, 1⟩, ⟨0x1F7C, 0x1FFA, 2, 1⟩, ⟨0x1F80, 0x1F88, 8, 1⟩, ⟨0x1F90, 0x1F98, 8, 1⟩,
  ⟨0x1FA0, 0x1FA8, 8, 1⟩, ⟨0x1FB0, 0x1FB8, 2, 1⟩, ⟨0x1FB3, 0x1FBC, 1, 1⟩, ⟨0x1FC3, 0x1FCC, 1, 1⟩,
  ⟨0x1FD0, 0x1FD8, 2, 1⟩, ⟨0x1FE0, 0x1FE8, 2, 1⟩, ⟨0x1FE5, 0x1FEC, 1, 1⟩, ⟨0x1FF3, 0x1FFC, 1, 1⟩,
  ⟨0x2132, 0x214E, 1, 1⟩, ⟨0x2160, 0x2170, 16, 1⟩, ⟨0x2183, 0x2184, 1, 1⟩,
  ⟨0x24B6, 0x24D0, 26, 1⟩, ⟨0x2C00, 0x2C30, 48, 1⟩, ⟨0x2C60, 0x2C61, 1, 1⟩,
  ⟨0x2C67, 0x2C68, 3, 2⟩, ⟨0x2C72, 0x2C73, 1, 1⟩, ⟨0x2C75, 0x2C76, 1, 1⟩, ⟨0x2C80, 0x2C81, 50, 2⟩,
  ⟨0x2CEB, 0x2CEC, 2, 2⟩, ⟨0x2CF2, 0x2CF3, 1, 1⟩, ⟨0xA640, 0xA641, 23, 2⟩,
  ⟨0xA680, 0xA681, 14, 2⟩, ⟨0xA722, 0xA723, 7, 2⟩, ⟨0xA732, 0xA733, 31, 2⟩,
  ⟨0xA779, 0xA77A, 2, 2⟩, ⟨0xA77E, 0xA77F, 5, 2⟩, ⟨0xA78B, 0xA78C, 1, 1⟩, ⟨0xA790, 0xA791, 2, 2⟩,
  ⟨0xA794, 0xA7C4, 1, 1⟩, ⟨0xA796, 0xA797, 10, 2⟩, ⟨0xA7B3, 0xAB53, 1, 1⟩, ⟨0xA7B4, 0xA7B5, 8, 2⟩,
  ⟨0xA7C7, 0xA7C8, 2, 2⟩, ⟨0xA7CC, 0xA7CD, 1, 1⟩, ⟨0xA7D0, 0xA7D1, 1, 1⟩, ⟨0xA7D6, 0xA7D7, 3, 2⟩,
  ⟨0xA7F5, 0xA7F6, 1, 1⟩, ⟨0xFB05, 0xFB06, 1, 1⟩, ⟨0xFF21, 0xFF41, 26, 1⟩,
  ⟨0x10400, 0x10428, 40, 1⟩, ⟨0x104B0, 0x104D8, 36, 1⟩, ⟨0x10570, 0x10597, 19, 2⟩,
  ⟨0x10571, 0x10598, 5, 2⟩, ⟨0x1057D, 0x105A4, 7, 2⟩, ⟨0x1058D, 0x105B4, 3, 2⟩,
  ⟨0x10595, 0x105BC, 1, 1⟩, ⟨0x10C80, 0x10CC0, 51, 1⟩, ⟨0x10D50, 0x10D70, 22, 1⟩,
  ⟨0x118A0, 0x118C0, 32, 1⟩, ⟨0x16E40, 0x16E60, 32, 1⟩, ⟨0x1E900, 0x1E922, 34, 1⟩]

def caseVariants (c : Char) : List Char :=
  c :: (caseRuns.flatMap (·.partners c.toNat)).map Char.ofNat

end SchedLatency.Text
