/-! Unicode's general categories. A category is named by its two letters: the first tells letters,
marks, numbers, punctuation, symbols, separators and others apart. -/
namespace SchedLatency.Text

inductive Category where
  | lu | ll | lt | lm | lo
  | mn | mc | me
  | nd | nl | no
  | pc | pd | ps | pe | pi | pf | po
  | sm | sc | sk | so
  | zs | zl | zp
  | cc | cf | cs | co | cn
  deriving DecidableEq, Repr

namespace Category

set_option maxRecDepth 40000 in
/-- Runs of code points of one category, each from its first code point to the next run. -/
def runs : List (Nat × Category) := [
  (0x0000, .cc), (0x0020, .zs), (0x0021, .po), (0x0024, .sc), (0x0025, .po), (0x0028, .ps),
  (0x0029, .pe), (0x002A, .po), (0x002B, .sm), (0x002C, .po), (0x002D, .pd), (0x002E, .po),
  (0x0030, .nd), (0x003A, .po), (0x003C, .sm), (0x003F, .po), (0x0041, .lu), (0x005B, .ps),
  (0x005C, .po), (0x005D, .pe), (0x005E, .sk), (0x005F, .pc), (0x0060, .sk), (0x0061, .ll),
  (0x007B, .ps), (0x007C, .sm), (0x007D, .pe), (0x007E, .sm), (0x007F, .cc), (0x00A0, .zs),
  (0x00A1, .po), (0x00A2, .sc), (0x00A6, .so), (0x00A7, .po), (0x00A8, .sk), (0x00A9, .so),
  (0x00AA, .lo), (0x00AB, .pi), (0x00AC, .sm), (0x00AD, .cf), (0x00AE, .so), (0x00AF, .sk),
  (0x00B0, .so), (0x00B1, .sm), (0x00B2, .no), (0x00B4, .sk), (0x00B5, .ll), (0x00B6, .po),
  (0x00B8, .sk), (0x00B9, .no), (0x00BA, .lo), (0x00BB, .pf), (0x00BC, .no), (0x00BF, .po),
  (0x00C0, .lu), (0x00D7, .sm), (0x00D8, .lu), (0x00DF, .ll), (0x00F7, .sm), (0x00F8, .ll),
  (0x0100, .lu), (0x0101, .ll), (0x0102, .lu), (0x0103, .ll), (0x0104, .lu), (0x0105, .ll),
  (0x0106, .lu), (0x0107, .ll), (0x0108, .lu), (0x0109, .ll), (0x010A, .lu), (0x010B, .ll),
  (0x010C, .lu), (0x010D, .ll), (0x010E, .lu), (0x010F, .ll), (0x0110, .lu), (0x0111, .ll),
  (0x0112, .lu), (0x0113, .ll), (0x0114, .lu), (0x0115, .ll), (0x0116, .lu), (0x0117, .ll),
  (0x0118, .lu), (0x0119, .ll), (0x011A, .lu), (0x011B, .ll), (0x011C, .lu), (0x011D, .ll),
  (0x011E, .lu), (0x011F, .ll), (0x0120, .lu), (0x0121, .ll), (0x0122, .lu), (0x0123, .ll),
  (0x0124, .lu), (0x0125, .ll), (0x0126, .lu), (0x0127, .ll), (0x0128, .lu), (0x0129, .ll),
  (0x012A, .lu), (0x012B, .ll), (0x012C, .lu), (0x012D, .ll), (0x012E, .lu), (0x012F, .ll),
  (0x0130, .lu), (0x0131, .ll), (0x0132, .lu), (0x0133, .ll), (0x0134, .lu), (0x0135, .ll),
  (0x0136, .lu), (0x0137, .ll), (0x0139, .lu), (0x013A, .ll), (0x013B, .lu), (0x013C, .ll),
  (0x013D, .lu), (0x013E, .ll), (0x013F, .lu), (0x0140, .ll), (0x0141, .lu), (0x0142, .ll),
  (0x0143, .lu), (0x0144, .ll), (0x0145, .lu), (0x0146, .ll), (0x0147, .lu), (0x0148, .ll),
  (0x014A, .lu), (0x014B, .ll), (0x014C, .lu), (0x014D, .ll), (0x014E, .lu), (0x014F, .ll),
  (0x0150, .lu), (0x0151, .ll), (0x0152, .lu), (0x0153, .ll), (0x0154, .lu), (0x0155, .ll),
  (0x0156, .lu), (0x0157, .ll), (0x0158, .lu), (0x0159, .ll), (0x015A, .lu), (0x015B, .ll),
  (0x015C, .lu), (0x015D, .ll), (0x015E, .lu), (0x015F, .ll), (0x0160, .lu), (0x0161, .ll),
  (0x0162, .lu), (0x0163, .ll), (0x0164, .lu), (0x0165, .ll), (0x0166, .lu), (0x0167, .ll),
  (0x0168, .lu), (0x0169, .ll), (0x016A, .lu), (0x016B, .ll), (0x016C, .lu), (0x016D, .ll),
  (0x016E, .lu), (0x016F, .ll), (0x0170, .lu), (0x0171, .ll), (0x0172, .lu), (0x0173, .ll),
  (0x0174, .lu), (0x0175, .ll), (0x0176, .lu), (0x0177, .ll), (0x0178, .lu), (0x017A, .ll),
  (0x017B, .lu), (0x017C, .ll), (0x017D, .lu), (0x017E, .ll), (0x0181, .lu), (0x0183, .ll),
  (0x0184, .lu), (0x0185, .ll), (0x0186, .lu), (0x0188, .ll), (0x0189, .lu), (0x018C, .ll),
  (0x018E, .lu), (0x0192, .ll), (0x0193, .lu), (0x0195, .ll), (0x0196, .lu), (0x0199, .ll),
  (0x019C, .lu), (0x019E, .ll), (0x019F, .lu), (0x01A1, .ll), (0x01A2, .lu), (0x01A3, .ll),
  (0x01A4, .lu), (0x01A5, .ll), (0x01A6, .lu), (0x01A8, .ll), (0x01A9, .lu), (0x01AA, .ll),
  (0x01AC, .lu), (0x01AD, .ll), (0x01AE, .lu), (0x01B0, .ll), (0x01B1, .lu), (0x01B4, .ll),
  (0x01B5, .lu), (0x01B6, .ll), (0x01B7, .lu), (0x01B9, .ll), (0x01BB, .lo), (0x01BC, .lu),
  (0x01BD, .ll), (0x01C0, .lo), (0x01C4, .lu), (0x01C5, .lt), (0x01C6, .ll), (0x01C7, .lu),
  (0x01C8, .lt), (0x01C9, .ll), (0x01CA, .lu), (0x01CB, .lt), (0x01CC, .ll), (0x01CD, .lu),
  (0x01CE, .ll), (0x01CF, .lu), (0x01D0, .ll), (0x01D1, .lu), (0x01D2, .ll), (0x01D3, .lu),
  (0x01D4, .ll), (0x01D5, .lu), (0x01D6, .ll), (0x01D7, .lu), (0x01D8, .ll), (0x01D9, .lu),
  (0x01DA, .ll), (0x01DB, .lu), (0x01DC, .ll), (0x01DE, .lu), (0x01DF, .ll), (0x01E0, .lu),
  (0x01E1, .ll), (0x01E2, .lu), (0x01E3, .ll), (0x01E4, .lu), (0x01E5, .ll), (0x01E6, .lu),
  (0x01E7, .ll), (0x01E8, .lu), (0x01E9, .ll), (0x01EA, .lu), (0x01EB, .ll), (0x01EC, .lu),
  (0x01ED, .ll), (0x01EE, .lu), (0x01EF, .ll), (0x01F1, .lu), (0x01F2, .lt), (0x01F3, .ll),
  (0x01F4, .lu), (0x01F5, .ll), (0x01F6, .lu), (0x01F9, .ll), (0x01FA, .lu), (0x01FB, .ll),
  (0x01FC, .lu), (0x01FD, .ll), (0x01FE, .lu), (0x01FF, .ll), (0x0200, .lu), (0x0201, .ll),
  (0x0202, .lu), (0x0203, .ll), (0x0204, .lu), (0x0205, .ll), (0x0206, .lu), (0x0207, .ll),
  (0x0208, .lu), (0x0209, .ll), (0x020A, .lu), (0x020B, .ll), (0x020C, .lu), (0x020D, .ll),
  (0x020E, .lu), (0x020F, .ll), (0x0210, .lu), (0x0211, .ll), (0x0212, .lu), (0x0213, .ll),
  (0x0214, .lu), (0x0215, .ll), (0x0216, .lu), (0x0217, .ll), (0x0218, .lu), (0x0219, .ll),
  (0x021A, .lu), (0x021B, .ll), (0x021C, .lu), (0x021D, .ll), (0x021E, .lu), (0x021F, .ll),
  (0x0220, .lu), (0x0221, .ll), (0x0222, .lu), (0x0223, .ll), (0x0224, .lu), (0x0225, .ll),
  (0x0226, .lu), (0x0227, .ll), (0x0228, .lu), (0x0229, .ll), (0x022A, .lu), (0x022B, .ll),
  (0x022C, .lu), (0x022D, .ll), (0x022E, .lu), (0x022F, .ll), (0x0230, .lu), (0x0231, .ll),
  (0x0232, .lu), (0x0233, .ll), (0x023A, .lu), (0x023C, .ll), (0x023D, .lu), (0x023F, .ll),
  (0x0241, .lu), (0x0242, .ll), (0x0243, .lu), (0x0247, .ll), (0x0248, .lu), (0x0249, .ll),
  (0x024A, .lu), (0x024B, .ll), (0x024C, .lu), (0x024D, .ll), (0x024E, .lu), (0x024F, .ll),
  (0x0294, .lo), (0x0296, .ll), (0x02B0, .lm), (0x02C2, .sk), (0x02C6, .lm), (0x02D2, .sk),
  (0x02E0, .lm), (0x02E5, .sk), (0x02EC, .lm), (0x02ED, .sk), (0x02EE, .lm), (0x02EF, .sk),
  (0x0300, .mn), (0x0370, .lu), (0x0371, .ll), (0x0372, .lu), (0x0373, .ll), (0x0374, .lm),
  (0x0375, .sk), (0x0376, .lu), (0x0377, .ll), (0x0378, .cn), (0x037A, .lm), (0x037B, .ll),
  (0x037E, .po), (0x037F, .lu), (0x0380, .cn), (0x0384, .sk), (0x0386, .lu), (0x0387, .po),
  (0x0388, .lu), (0x038B, .cn), (0x038C, .lu), (0x038D, .cn), (0x038E, .lu), (0x0390, .ll),
  (0x0391, .lu), (0x03A2, .cn), (0x03A3, .lu), (0x03AC, .ll), (0x03CF, .lu), (0x03D0, .ll),
  (0x03D2, .lu), (0x03D5, .ll), (0x03D8, .lu), (0x03D9, .ll), (0x03DA, .lu), (0x03DB, .ll),
  (0x03DC, .lu), (0x03DD, .ll), (0x03DE, .lu), (0x03DF, .ll), (0x03E0, .lu), (0x03E1, .ll),
  (0x03E2, .lu), (0x03E3, .ll), (0x03E4, .lu), (0x03E5, .ll), (0x03E6, .lu), (0x03E7, .ll),
  (0x03E8, .lu), (0x03E9, .ll), (0x03EA, .lu), (0x03EB, .ll), (0x03EC, .lu), (0x03ED, .ll),
  (0x03EE, .lu), (0x03EF, .ll), (0x03F4, .lu), (0x03F5, .ll), (0x03F6, .sm), (0x03F7, .lu),
  (0x03F8, .ll), (0x03F9, .lu), (0x03FB, .ll), (0x03FD, .lu), (0x0430, .ll), (0x0460, .lu),
  (0x0461, .ll), (0x0462, .lu), (0x0463, .ll), (0x0464, .lu), (0x0465, .ll), (0x0466, .lu),
  (0x0467, .ll), (0x0468, .lu), (0x0469, .ll), (0x046A, .lu), (0x046B, .ll), (0x046C, .lu),
  (0x046D, .ll), (0x046E, .lu), (0x046F, .ll), (0x0470, .lu), (0x0471, .ll), (0x0472, .lu),
  (0x0473, .ll), (0x0474, .lu), (0x0475, .ll), (0x0476, .lu), (0x0477, .ll), (0x0478, .lu),
  (0x0479, .ll), (0x047A, .lu), (0x047B, .ll), (0x047C, .lu), (0x047D, .ll), (0x047E, .lu),
  (0x047F, .ll), (0x0480, .lu), (0x0481, .ll), (0x0482, .so), (0x0483, .mn), (0x0488, .me),
  (0x048A, .lu), (0x048B, .ll), (0x048C, .lu), (0x048D, .ll), (0x048E, .lu), (0x048F, .ll),
  (0x0490, .lu), (0x0491, .ll), (0x0492, .lu), (0x0493, .ll), (0x0494, .lu), (0x0495, .ll),
  (0x0496, .lu), (0x0497, .ll), (0x0498, .lu), (0x0499, .ll), (0x049A, .lu), (0x049B, .ll),
  (0x049C, .lu), (0x049D, .ll), (0x049E, .lu), (0x049F, .ll), (0x04A0, .lu), (0x04A1, .ll),
  (0x04A2, .lu), (0x04A3, .ll), (0x04A4, .lu), (0x04A5, .ll), (0x04A6, .lu), (0x04A7, .ll),
  (0x04A8, .lu), (0x04A9, .ll), (0x04AA, .lu), (0x04AB, .ll), (0x04AC, .lu), (0x04AD, .ll),
  (0x04AE, .lu), (0x04AF, .ll), (0x04B0, .lu), (0x04B1, .ll), (0x04B2, .lu), (0x04B3, .ll),
  (0x04B4, .lu), (0x04B5, .ll), (0x04B6, .lu), (0x04B7, .ll), (0x04B8, .lu), (0x04B9, .ll),
  (0x04BA, .lu), (0x04BB, .ll), (0x04BC, .lu), (0x04BD, .ll), (0x04BE, .lu), (0x04BF, .ll),
  (0x04C0, .lu), (0x04C2, .ll), (0x04C3, .lu), (0x04C4, .ll), (0x04C5, .lu), (0x04C6, .ll),
  (0x04C7, .lu), (0x04C8, .ll), (0x04C9, .lu), (0x04CA, .ll), (0x04CB, .lu), (0x04CC, .ll),
  (0x04CD, .lu), (0x04CE, .ll), (0x04D0, .lu), (0x04D1, .ll), (0x04D2, .lu), (0x04D3, .ll),
  (0x04D4, .lu), (0x04D5, .ll), (0x04D6, .lu), (0x04D7, .ll), (0x04D8, .lu), (0x04D9, .ll),
  (0x04DA, .lu), (0x04DB, .ll), (0x04DC, .lu), (0x04DD, .ll), (0x04DE, .lu), (0x04DF, .ll),
  (0x04E0, .lu), (0x04E1, .ll), (0x04E2, .lu), (0x04E3, .ll), (0x04E4, .lu), (0x04E5, .ll),
  (0x04E6, .lu), (0x04E7, .ll), (0x04E8, .lu), (0x04E9, .ll), (0x04EA, .lu), (0x04EB, .ll),
  (0x04EC, .lu), (0x04ED, .ll), (0x04EE, .lu), (0x04EF, .ll), (0x04F0, .lu), (0x04F1, .ll),
  (0x04F2, .lu), (0x04F3, .ll), (0x04F4, .lu), (0x04F5, .ll), (0x04F6, .lu), (0x04F7, .ll),
  (0x04F8, .lu), (0x04F9, .ll), (0x04FA, .lu), (0x04FB, .ll), (0x04FC, .lu), (0x04FD, .ll),
  (0x04FE, .lu), (0x04FF, .ll), (0x0500, .lu), (0x0501, .ll), (0x0502, .lu), (0x0503, .ll),
  (0x0504, .lu), (0x0505, .ll), (0x0506, .lu), (0x0507, .ll), (0x0508, .lu), (0x0509, .ll),
  (0x050A, .lu), (0x050B, .ll), (0x050C, .lu), (0x050D, .ll), (0x050E, .lu), (0x050F, .ll),
  (0x0510, .lu), (0x0511, .ll), (0x0512, .lu), (0x0513, .ll), (0x0514, .lu), (0x0515, .ll),
  (0x0516, .lu), (0x0517, .ll), (0x0518, .lu), (0x0519, .ll), (0x051A, .lu), (0x051B, .ll),
  (0x051C, .lu), (0x051D, .ll), (0x051E, .lu), (0x051F, .ll), (0x0520, .lu), (0x0521, .ll),
  (0x0522, .lu), (0x0523, .ll), (0x0524, .lu), (0x0525, .ll), (0x0526, .lu), (0x0527, .ll),
  (0x0528, .lu), (0x0529, .ll), (0x052A, .lu), (0x052B, .ll), (0x052C, .lu), (0x052D, .ll),
  (0x052E, .lu), (0x052F, .ll), (0x0530, .cn), (0x0531, .lu), (0x0557, .cn), (0x0559, .lm),
  (0x055A, .po), (0x0560, .ll), (0x0589, .po), (0x058A, .pd), (0x058B, .cn), (0x058D, .so),
  (0x058F, .sc), (0x0590, .cn), (0x0591, .mn), (0x05BE, .pd), (0x05BF, .mn), (0x05C0, .po),
  (0x05C1, .mn), (0x05C3, .po), (0x05C4, .mn), (0x05C6, .po), (0x05C7, .mn), (0x05C8, .cn),
  (0x05D0, .lo), (0x05EB, .cn), (0x05EF, .lo), (0x05F3, .po), (0x05F5, .cn), (0x0600, .cf),
  (0x0606, .sm), (0x0609, .po), (0x060B, .sc), (0x060C, .po), (0x060E, .so), (0x0610, .mn),
  (0x061B, .po), (0x061C, .cf), (0x061D, .po), (0x0620, .lo), (0x0640, .lm), (0x0641, .lo),
  (0x064B, .mn), (0x0660, .nd), (0x066A, .po), (0x066E, .lo), (0x0670, .mn), (0x0671, .lo),
  (0x06D4, .po), (0x06D5, .lo), (0x06D6, .mn), (0x06DD, .cf), (0x06DE, .so), (0x06DF, .mn),
  (0x06E5, .lm), (0x06E7, .mn), (0x06E9, .so), (0x06EA, .mn), (0x06EE, .lo), (0x06F0, .nd),
  (0x06FA, .lo), (0x06FD, .so), (0x06FF, .lo), (0x0700, .po), (0x070E, .cn), (0x070F, .cf),
  (0x0710, .lo), (0x0711, .mn), (0x0712, .lo), (0x0730, .mn), (0x074B, .cn), (0x074D, .lo),
  (0x07A6, .mn), (0x07B1, .lo), (0x07B2, .cn), (0x07C0, .nd), (0x07CA, .lo), (0x07EB, .mn),
  (0x07F4, .lm), (0x07F6, .so), (0x07F7, .po), (0x07FA, .lm), (0x07FB, .cn), (0x07FD, .mn),
  (0x07FE, .sc), (0x0800, .lo), (0x0816, .mn), (0x081A, .lm), (0x081B, .mn), (0x0824, .lm),
  (0x0825, .mn), (0x0828, .lm), (0x0829, .mn), (0x082E, .cn), (0x0830, .po), (0x083F, .cn),
  (0x0840, .lo), (0x0859, .mn), (0x085C, .cn), (0x085E, .po), (0x085F, .cn), (0x0860, .lo),
  (0x086B, .cn), (0x0870, .lo), (0x0888, .sk), (0x0889, .lo), (0x0890, .cf), (0x0892, .cn),
  (0x0897, .mn), (0x08A0, .lo), (0x08C9, .lm), (0x08CA, .mn), (0x08E2, .cf), (0x08E3, .mn),
  (0x0903, .mc), (0x0904, .lo), (0x093A, .mn), (0x093B, .mc), (0x093C, .mn), (0x093D, .lo),
  (0x093E, .mc), (0x0941, .mn), (0x0949, .mc), (0x094D, .mn), (0x094E, .mc), (0x0950, .lo),
  (0x0951, .mn), (0x0958, .lo), (0x0962, .mn), (0x0964, .po), (0x0966, .nd), (0x0970, .po),
  (0x0971, .lm), (0x0972, .lo), (0x0981, .mn), (0x0982, .mc), (0x0984, .cn), (0x0985, .lo),
  (0x098D, .cn), (0x098F, .lo), (0x0991, .cn), (0x0993, .lo), (0x09A9, .cn), (0x09AA, .lo),
  (0x09B1, .cn), (0x09B2, .lo), (0x09B3, .cn), (0x09B6, .lo), (0x09BA, .cn), (0x09BC, .mn),
  (0x09BD, .lo), (0x09BE, .mc), (0x09C1, .mn), (0x09C5, .cn), (0x09C7, .mc), (0x09C9, .cn),
  (0x09CB, .mc), (0x09CD, .mn), (0x09CE, .lo), (0x09CF, .cn), (0x09D7, .mc), (0x09D8, .cn),
  (0x09DC, .lo), (0x09DE, .cn), (0x09DF, .lo), (0x09E2, .mn), (0x09E4, .cn), (0x09E6, .nd),
  (0x09F0, .lo), (0x09F2, .sc), (0x09F4, .no), (0x09FA, .so), (0x09FB, .sc), (0x09FC, .lo),
  (0x09FD, .po), (0x09FE, .mn), (0x09FF, .cn), (0x0A01, .mn), (0x0A03, .mc), (0x0A04, .cn),
  (0x0A05, .lo), (0x0A0B, .cn), (0x0A0F, .lo), (0x0A11, .cn), (0x0A13, .lo), (0x0A29, .cn),
  (0x0A2A, .lo), (0x0A31, .cn), (0x0A32, .lo), (0x0A34, .cn), (0x0A35, .lo), (0x0A37, .cn),
  (0x0A38, .lo), (0x0A3A, .cn), (0x0A3C, .mn), (0x0A3D, .cn), (0x0A3E, .mc), (0x0A41, .mn),
  (0x0A43, .cn), (0x0A47, .mn), (0x0A49, .cn), (0x0A4B, .mn), (0x0A4E, .cn), (0x0A51, .mn),
  (0x0A52, .cn), (0x0A59, .lo), (0x0A5D, .cn), (0x0A5E, .lo), (0x0A5F, .cn), (0x0A66, .nd),
  (0x0A70, .mn), (0x0A72, .lo), (0x0A75, .mn), (0x0A76, .po), (0x0A77, .cn), (0x0A81, .mn),
  (0x0A83, .mc), (0x0A84, .cn), (0x0A85, .lo), (0x0A8E, .cn), (0x0A8F, .lo), (0x0A92, .cn),
  (0x0A93, .lo), (0x0AA9, .cn), (0x0AAA, .lo), (0x0AB1, .cn), (0x0AB2, .lo), (0x0AB4, .cn),
  (0x0AB5, .lo), (0x0ABA, .cn), (0x0ABC, .mn), (0x0ABD, .lo), (0x0ABE, .mc), (0x0AC1, .mn),
  (0x0AC6, .cn), (0x0AC7, .mn), (0x0AC9, .mc), (0x0ACA, .cn), (0x0ACB, .mc), (0x0ACD, .mn),
  (0x0ACE, .cn), (0x0AD0, .lo), (0x0AD1, .cn), (0x0AE0, .lo), (0x0AE2, .mn), (0x0AE4, .cn),
  (0x0AE6, .nd), (0x0AF0, .po), (0x0AF1, .sc), (0x0AF2, .cn), (0x0AF9, .lo), (0x0AFA, .mn),
  (0x0B00, .cn), (0x0B01, .mn), (0x0B02, .mc), (0x0B04, .cn), (0x0B05, .lo), (0x0B0D, .cn),
  (0x0B0F, .lo), (0x0B11, .cn), (0x0B13, .lo), (0x0B29, .cn), (0x0B2A, .lo), (0x0B31, .cn),
  (0x0B32, .lo), (0x0B34, .cn), (0x0B35, .lo), (0x0B3A, .cn), (0x0B3C, .mn), (0x0B3D, .lo),
  (0x0B3E, .mc), (0x0B3F, .mn), (0x0B40, .mc), (0x0B41, .mn), (0x0B45, .cn), (0x0B47, .mc),
  (0x0B49, .cn), (0x0B4B, .mc), (0x0B4D, .mn), (0x0B4E, .cn), (0x0B55, .mn), (0x0B57, .mc),
  (0x0B58, .cn), (0x0B5C, .lo), (0x0B5E, .cn), (0x0B5F, .lo), (0x0B62, .mn), (0x0B64, .cn),
  (0x0B66, .nd), (0x0B70, .so), (0x0B71, .lo), (0x0B72, .no), (0x0B78, .cn), (0x0B82, .mn),
  (0x0B83, .lo), (0x0B84, .cn), (0x0B85, .lo), (0x0B8B, .cn), (0x0B8E, .lo), (0x0B91, .cn),
  (0x0B92, .lo), (0x0B96, .cn), (0x0B99, .lo), (0x0B9B, .cn), (0x0B9C, .lo), (0x0B9D, .cn),
  (0x0B9E, .lo), (0x0BA0, .cn), (0x0BA3, .lo), (0x0BA5, .cn), (0x0BA8, .lo), (0x0BAB, .cn),
  (0x0BAE, .lo), (0x0BBA, .cn), (0x0BBE, .mc), (0x0BC0, .mn), (0x0BC1, .mc), (0x0BC3, .cn),
  (0x0BC6, .mc), (0x0BC9, .cn), (0x0BCA, .mc), (0x0BCD, .mn), (0x0BCE, .cn), (0x0BD0, .lo),
  (0x0BD1, .cn), (0x0BD7, .mc), (0x0BD8, .cn), (0x0BE6, .nd), (0x0BF0, .no), (0x0BF3, .so),
  (0x0BF9, .sc), (0x0BFA, .so), (0x0BFB, .cn), (0x0C00, .mn), (0x0C01, .mc), (0x0C04, .mn),
  (0x0C05, .lo), (0x0C0D, .cn), (0x0C0E, .lo), (0x0C11, .cn), (0x0C12, .lo), (0x0C29, .cn),
  (0x0C2A, .lo), (0x0C3A, .cn), (0x0C3C, .mn), (0x0C3D, .lo), (0x0C3E, .mn), (0x0C41, .mc),
  (0x0C45, .cn), (0x0C46, .mn), (0x0C49, .cn), (0x0C4A, .mn), (0x0C4E, .cn), (0x0C55, .mn),
  (0x0C57, .cn), (0x0C58, .lo), (0x0C5B, .cn), (0x0C5C, .lo), (0x0C5E, .cn), (0x0C60, .lo),
  (0x0C62, .mn), (0x0C64, .cn), (0x0C66, .nd), (0x0C70, .cn), (0x0C77, .po), (0x0C78, .no),
  (0x0C7F, .so), (0x0C80, .lo), (0x0C81, .mn), (0x0C82, .mc), (0x0C84, .po), (0x0C85, .lo),
  (0x0C8D, .cn), (0x0C8E, .lo), (0x0C91, .cn), (0x0C92, .lo), (0x0CA9, .cn), (0x0CAA, .lo),
  (0x0CB4, .cn), (0x0CB5, .lo), (0x0CBA, .cn), (0x0CBC, .mn), (0x0CBD, .lo), (0x0CBE, .mc),
  (0x0CBF, .mn), (0x0CC0, .mc), (0x0CC5, .cn), (0x0CC6, .mn), (0x0CC7, .mc), (0x0CC9, .cn),
  (0x0CCA, .mc), (0x0CCC, .mn), (0x0CCE, .cn), (0x0CD5, .mc), (0x0CD7, .cn), (0x0CDC, .lo),
  (0x0CDF, .cn), (0x0CE0, .lo), (0x0CE2, .mn), (0x0CE4, .cn), (0x0CE6, .nd), (0x0CF0, .cn),
  (0x0CF1, .lo), (0x0CF3, .mc), (0x0CF4, .cn), (0x0D00, .mn), (0x0D02, .mc), (0x0D04, .lo),
  (0x0D0D, .cn), (0x0D0E, .lo), (0x0D11, .cn), (0x0D12, .lo), (0x0D3B, .mn), (0x0D3D, .lo),
  (0x0D3E, .mc), (0x0D41, .mn), (0x0D45, .cn), (0x0D46, .mc), (0x0D49, .cn), (0x0D4A, .mc),
  (0x0D4D, .mn), (0x0D4E, .lo), (0x0D4F, .so), (0x0D50, .cn), (0x0D54, .lo), (0x0D57, .mc),
  (0x0D58, .no), (0x0D5F, .lo), (0x0D62, .mn), (0x0D64, .cn), (0x0D66, .nd), (0x0D70, .no),
  (0x0D79, .so), (0x0D7A, .lo), (0x0D80, .cn), (0x0D81, .mn), (0x0D82, .mc), (0x0D84, .cn),
  (0x0D85, .lo), (0x0D97, .cn), (0x0D9A, .lo), (0x0DB2, .cn), (0x0DB3, .lo), (0x0DBC, .cn),
  (0x0DBD, .lo), (0x0DBE, .cn), (0x0DC0, .lo), (0x0DC7, .cn), (0x0DCA, .mn), (0x0DCB, .cn),
  (0x0DCF, .mc), (0x0DD2, .mn), (0x0DD5, .cn), (0x0DD6, .mn), (0x0DD7, .cn), (0x0DD8, .mc),
  (0x0DE0, .cn), (0x0DE6, .nd), (0x0DF0, .cn), (0x0DF2, .mc), (0x0DF4, .po), (0x0DF5, .cn),
  (0x0E01, .lo), (0x0E31, .mn), (0x0E32, .lo), (0x0E34, .mn), (0x0E3B, .cn), (0x0E3F, .sc),
  (0x0E40, .lo), (0x0E46, .lm), (0x0E47, .mn), (0x0E4F, .po), (0x0E50, .nd), (0x0E5A, .po),
  (0x0E5C, .cn), (0x0E81, .lo), (0x0E83, .cn), (0x0E84, .lo), (0x0E85, .cn), (0x0E86, .lo),
  (0x0E8B, .cn), (0x0E8C, .lo), (0x0EA4, .cn), (0x0EA5, .lo), (0x0EA6, .cn), (0x0EA7, .lo),
  (0x0EB1, .mn), (0x0EB2, .lo), (0x0EB4, .mn), (0x0EBD, .lo), (0x0EBE, .cn), (0x0EC0, .lo),
  (0x0EC5, .cn), (0x0EC6, .lm), (0x0EC7, .cn), (0x0EC8, .mn), (0x0ECF, .cn), (0x0ED0, .nd),
  (0x0EDA, .cn), (0x0EDC, .lo), (0x0EE0, .cn), (0x0F00, .lo), (0x0F01, .so), (0x0F04, .po),
  (0x0F13, .so), (0x0F14, .po), (0x0F15, .so), (0x0F18, .mn), (0x0F1A, .so), (0x0F20, .nd),
  (0x0F2A, .no), (0x0F34, .so), (0x0F35, .mn), (0x0F36, .so), (0x0F37, .mn), (0x0F38, .so),
  (0x0F39, .mn), (0x0F3A, .ps), (0x0F3B, .pe), (0x0F3C, .ps), (0x0F3D, .pe), (0x0F3E, .mc),
  (0x0F40, .lo), (0x0F48, .cn), (0x0F49, .lo), (0x0F6D, .cn), (0x0F71, .mn), (0x0F7F, .mc),
  (0x0F80, .mn), (0x0F85, .po), (0x0F86, .mn), (0x0F88, .lo), (0x0F8D, .mn), (0x0F98, .cn),
  (0x0F99, .mn), (0x0FBD, .cn), (0x0FBE, .so), (0x0FC6, .mn), (0x0FC7, .so), (0x0FCD, .cn),
  (0x0FCE, .so), (0x0FD0, .po), (0x0FD5, .so), (0x0FD9, .po), (0x0FDB, .cn), (0x1000, .lo),
  (0x102B, .mc), (0x102D, .mn), (0x1031, .mc), (0x1032, .mn), (0x1038, .mc), (0x1039, .mn),
  (0x103B, .mc), (0x103D, .mn), (0x103F, .lo), (0x1040, .nd), (0x104A, .po), (0x1050, .lo),
  (0x1056, .mc), (0x1058, .mn), (0x105A, .lo), (0x105E, .mn), (0x1061, .lo), (0x1062, .mc),
  (0x1065, .lo), (0x1067, .mc), (0x106E, .lo), (0x1071, .mn), (0x1075, .lo), (0x1082, .mn),
  (0x1083, .mc), (0x1085, .mn), (0x1087, .mc), (0x108D, .mn), (0x108E, .lo), (0x108F, .mc),
  (0x1090, .nd), (0x109A, .mc), (0x109D, .mn), (0x109E, .so), (0x10A0, .lu), (0x10C6, .cn),
  (0x10C7, .lu), (0x10C8, .cn), (0x10CD, .lu), (0x10CE, .cn), (0x10D0, .ll), (0x10FB, .po),
  (0x10FC, .lm), (0x10FD, .ll), (0x1100, .lo), (0x1249, .cn), (0x124A, .lo), (0x124E, .cn),
  (0x1250, .lo), (0x1257, .cn), (0x1258, .lo), (0x1259, .cn), (0x125A, .lo), (0x125E, .cn),
  (0x1260, .lo), (0x1289, .cn), (0x128A, .lo), (0x128E, .cn), (0x1290, .lo), (0x12B1, .cn),
  (0x12B2, .lo), (0x12B6, .cn), (0x12B8, .lo), (0x12BF, .cn), (0x12C0, .lo), (0x12C1, .cn),
  (0x12C2, .lo), (0x12C6, .cn), (0x12C8, .lo), (0x12D7, .cn), (0x12D8, .lo), (0x1311, .cn),
  (0x1312, .lo), (0x1316, .cn), (0x1318, .lo), (0x135B, .cn), (0x135D, .mn), (0x1360, .po),
  (0x1369, .no), (0x137D, .cn), (0x1380, .lo), (0x1390, .so), (0x139A, .cn), (0x13A0, .lu),
  (0x13F6, .cn), (0x13F8, .ll), (0x13FE, .cn), (0x1400, .pd), (0x1401, .lo), (0x166D, .so),
  (0x166E, .po), (0x166F, .lo), (0x1680, .zs), (0x1681, .lo), (0x169B, .ps), (0x169C, .pe),
  (0x169D, .cn), (0x16A0, .lo), (0x16EB, .po), (0x16EE, .nl), (0x16F1, .lo), (0x16F9, .cn),
  (0x1700, .lo), (0x1712, .mn), (0x1715, .mc), (0x1716, .cn), (0x171F, .lo), (0x1732, .mn),
  (0x1734, .mc), (0x1735, .po), (0x1737, .cn), (0x1740, .lo), (0x1752, .mn), (0x1754, .cn),
  (0x1760, .lo), (0x176D, .cn), (0x176E, .lo), (0x1771, .cn), (0x1772, .mn), (0x1774, .cn),
  (0x1780, .lo), (0x17B4, .mn), (0x17B6, .mc), (0x17B7, .mn), (0x17BE, .mc), (0x17C6, .mn),
  (0x17C7, .mc), (0x17C9, .mn), (0x17D4, .po), (0x17D7, .lm), (0x17D8, .po), (0x17DB, .sc),
  (0x17DC, .lo), (0x17DD, .mn), (0x17DE, .cn), (0x17E0, .nd), (0x17EA, .cn), (0x17F0, .no),
  (0x17FA, .cn), (0x1800, .po), (0x1806, .pd), (0x1807, .po), (0x180B, .mn), (0x180E, .cf),
  (0x180F, .mn), (0x1810, .nd), (0x181A, .cn), (0x1820, .lo), (0x1843, .lm), (0x1844, .lo),
  (0x1879, .cn), (0x1880, .lo), (0x1885, .mn), (0x1887, .lo), (0x18A9, .mn), (0x18AA, .lo),
  (0x18AB, .cn), (0x18B0, .lo), (0x18F6, .cn), (0x1900, .lo), (0x191F, .cn), (0x1920, .mn),
  (0x1923, .mc), (0x1927, .mn), (0x1929, .mc), (0x192C, .cn), (0x1930, .mc), (0x1932, .mn),
  (0x1933, .mc), (0x1939, .mn), (0x193C, .cn), (0x1940, .so), (0x1941, .cn), (0x1944, .po),
  (0x1946, .nd), (0x1950, .lo), (0x196E, .cn), (0x1970, .lo), (0x1975, .cn), (0x1980, .lo),
  (0x19AC, .cn), (0x19B0, .lo), (0x19CA, .cn), (0x19D0, .nd), (0x19DA, .no), (0x19DB, .cn),
  (0x19DE, .so), (0x1A00, .lo), (0x1A17, .mn), (0x1A19, .mc), (0x1A1B, .mn), (0x1A1C, .cn),
  (0x1A1E, .po), (0x1A20, .lo), (0x1A55, .mc), (0x1A56, .mn), (0x1A57, .mc), (0x1A58, .mn),
  (0x1A5F, .cn), (0x1A60, .mn), (0x1A61, .mc), (0x1A62, .mn), (0x1A63, .mc), (0x1A65, .mn),
  (0x1A6D, .mc), (0x1A73, .mn), (0x1A7D, .cn), (0x1A7F, .mn), (0x1A80, .nd), (0x1A8A, .cn),
  (0x1A90, .nd), (0x1A9A, .cn), (0x1AA0, .po), (0x1AA7, .lm), (0x1AA8, .po), (0x1AAE, .cn),
  (0x1AB0, .mn), (0x1ABE, .me), (0x1ABF, .mn), (0x1ADE, .cn), (0x1AE0, .mn), (0x1AEC, .cn),
  (0x1B00, .mn), (0x1B04, .mc), (0x1B05, .lo), (0x1B34, .mn), (0x1B35, .mc), (0x1B36, .mn),
  (0x1B3B, .mc), (0x1B3C, .mn), (0x1B3D, .mc), (0x1B42, .mn), (0x1B43, .mc), (0x1B45, .lo),
  (0x1B4D, .cn), (0x1B4E, .po), (0x1B50, .nd), (0x1B5A, .po), (0x1B61, .so), (0x1B6B, .mn),
  (0x1B74, .so), (0x1B7D, .po), (0x1B80, .mn), (0x1B82, .mc), (0x1B83, .lo), (0x1BA1, .mc),
  (0x1BA2, .mn), (0x1BA6, .mc), (0x1BA8, .mn), (0x1BAA, .mc), (0x1BAB, .mn), (0x1BAE, .lo),
  (0x1BB0, .nd), (0x1BBA, .lo), (0x1BE6, .mn), (0x1BE7, .mc), (0x1BE8, .mn), (0x1BEA, .mc),
  (0x1BED, .mn), (0x1BEE, .mc), (0x1BEF, .mn), (0x1BF2, .mc), (0x1BF4, .cn), (0x1BFC, .po),
  (0x1C00, .lo), (0x1C24, .mc), (0x1C2C, .mn), (0x1C34, .mc), (0x1C36, .mn), (0x1C38, .cn),
  (0x1C3B, .po), (0x1C40, .nd), (0x1C4A, .cn), (0x1C4D, .lo), (0x1C50, .nd), (0x1C5A, .lo),
  (0x1C78, .lm), (0x1C7E, .po), (0x1C80, .ll), (0x1C89, .lu), (0x1C8A, .ll), (0x1C8B, .cn),
  (0x1C90, .lu), (0x1CBB, .cn), (0x1CBD, .lu), (0x1CC0, .po), (0x1CC8, .cn), (0x1CD0, .mn),
  (0x1CD3, .po), (0x1CD4, .mn), (0x1CE1, .mc), (0x1CE2, .mn), (0x1CE9, .lo), (0x1CED, .mn),
  (0x1CEE, .lo), (0x1CF4, .mn), (0x1CF5, .lo), (0x1CF7, .mc), (0x1CF8, .mn), (0x1CFA, .lo),
  (0x1CFB, .cn), (0x1D00, .ll), (0x1D2C, .lm), (0x1D6B, .ll), (0x1D78, .lm), (0x1D79, .ll),
  (0x1D9B, .lm), (0x1DC0, .mn), (0x1E00, .lu), (0x1E01, .ll), (0x1E02, .lu), (0x1E03, .ll),
  (0x1E04, .lu), (0x1E05, .ll), (0x1E06, .lu), (0x1E07, .ll), (0x1E08, .lu), (0x1E09, .ll),
  (0x1E0A, .lu), (0x1E0B, .ll), (0x1E0C, .lu), (0x1E0D, .ll), (0x1E0E, .lu), (0x1E0F, .ll),
  (0x1E10, .lu), (0x1E11, .ll), (0x1E12, .lu), (0x1E13, .ll), (0x1E14, .lu), (0x1E15, .ll),
  (0x1E16, .lu), (0x1E17, .ll), (0x1E18, .lu), (0x1E19, .ll), (0x1E1A, .lu), (0x1E1B, .ll),
  (0x1E1C, .lu), (0x1E1D, .ll), (0x1E1E, .lu), (0x1E1F, .ll), (0x1E20, .lu), (0x1E21, .ll),
  (0x1E22, .lu), (0x1E23, .ll), (0x1E24, .lu), (0x1E25, .ll), (0x1E26, .lu), (0x1E27, .ll),
  (0x1E28, .lu), (0x1E29, .ll), (0x1E2A, .lu), (0x1E2B, .ll), (0x1E2C, .lu), (0x1E2D, .ll),
  (0x1E2E, .lu), (0x1E2F, .ll), (0x1E30, .lu), (0x1E31, .ll), (0x1E32, .lu), (0x1E33, .ll),
  (0x1E34, .lu), (0x1E35, .ll), (0x1E36, .lu), (0x1E37, .ll), (0x1E38, .lu), (0x1E39, .ll),
  (0x1E3A, .lu), (0x1E3B, .ll), (0x1E3C, .lu), (0x1E3D, .ll), (0x1E3E, .lu), (0x1E3F, .ll),
  (0x1E40, .lu), (0x1E41, .ll), (0x1E42, .lu), (0x1E43, .ll), (0x1E44, .lu), (0x1E45, .ll),
  (0x1E46, .lu), (0x1E47, .ll), (0x1E48, .lu), (0x1E49, .ll), (0x1E4A, .lu), (0x1E4B, .ll),
  (0x1E4C, .lu), (0x1E4D, .ll), (0x1E4E, .lu), (0x1E4F, .ll), (0x1E50, .lu), (0x1E51, .ll),
  (0x1E52, .lu), (0x1E53, .ll), (0x1E54, .lu), (0x1E55, .ll), (0x1E56, .lu), (0x1E57, .ll),
  (0x1E58, .lu), (0x1E59, .ll), (0x1E5A, .lu), (0x1E5B, .ll), (0x1E5C, .lu), (0x1E5D, .ll),
  (0x1E5E, .lu), (0x1E5F, .ll), (0x1E60, .lu), (0x1E61, .ll), (0x1E62, .lu), (0x1E63, .ll),
  (0x1E64, .lu), (0x1E65, .ll), (0x1E66, .lu), (0x1E67, .ll), (0x1E68, .lu), (0x1E69, .ll),
  (0x1E6A, .lu), (0x1E6B, .ll), (0x1E6C, .lu), (0x1E6D, .ll), (0x1E6E, .lu), (0x1E6F, .ll),
  (0x1E70, .lu), (0x1E71, .ll), (0x1E72, .lu), (0x1E73, .ll), (0x1E74, .lu), (0x1E75, .ll),
  (0x1E76, .lu), (0x1E77, .ll), (0x1E78, .lu), (0x1E79, .ll), (0x1E7A, .lu), (0x1E7B, .ll),
  (0x1E7C, .lu), (0x1E7D, .ll), (0x1E7E, .lu), (0x1E7F, .ll), (0x1E80, .lu), (0x1E81, .ll),
  (0x1E82, .lu), (0x1E83, .ll), (0x1E84, .lu), (0x1E85, .ll), (0x1E86, .lu), (0x1E87, .ll),
  (0x1E88, .lu), (0x1E89, .ll), (0x1E8A, .lu), (0x1E8B, .ll), (0x1E8C, .lu), (0x1E8D, .ll),
  (0x1E8E, .lu), (0x1E8F, .ll), (0x1E90, .lu), (0x1E91, .ll), (0x1E92, .lu), (0x1E93, .ll),
  (0x1E94, .lu), (0x1E95, .ll), (0x1E9E, .lu), (0x1E9F, .ll), (0x1EA0, .lu), (0x1EA1, .ll),
  (0x1EA2, .lu), (0x1EA3, .ll), (0x1EA4, .lu), (0x1EA5, .ll), (0x1EA6, .lu), (0x1EA7, .ll),
  (0x1EA8, .lu), (0x1EA9, .ll), (0x1EAA, .lu), (0x1EAB, .ll), (0x1EAC, .lu), (0x1EAD, .ll),
  (0x1EAE, .lu), (0x1EAF, .ll), (0x1EB0, .lu), (0x1EB1, .ll), (0x1EB2, .lu), (0x1EB3, .ll),
  (0x1EB4, .lu), (0x1EB5, .ll), (0x1EB6, .lu), (0x1EB7, .ll), (0x1EB8, .lu), (0x1EB9, .ll),
  (0x1EBA, .lu), (0x1EBB, .ll), (0x1EBC, .lu), (0x1EBD, .ll), (0x1EBE, .lu), (0x1EBF, .ll),
  (0x1EC0, .lu), (0x1EC1, .ll), (0x1EC2, .lu), (0x1EC3, .ll), (0x1EC4, .lu), (0x1EC5, .ll),
  (0x1EC6, .lu), (0x1EC7, .ll), (0x1EC8, .lu), (0x1EC9, .ll), (0x1ECA, .lu), (0x1ECB, .ll),
  (0x1ECC, .lu), (0x1ECD, .ll), (0x1ECE, .lu), (0x1ECF, .ll), (0x1ED0, .lu), (0x1ED1, .ll),
  (0x1ED2, .lu), (0x1ED3, .ll), (0x1ED4, .lu), (0x1ED5, .ll), (0x1ED6, .lu), (0x1ED7, .ll),
  (0x1ED8, .lu), (0x1ED9, .ll), (0x1EDA, .lu), (0x1EDB, .ll), (0x1EDC, .lu), (0x1EDD, .ll),
  (0x1EDE, .lu), (0x1EDF, .ll), (0x1EE0, .lu), (0x1EE1, .ll), (0x1EE2, .lu), (0x1EE3, .ll),
  (0x1EE4, .lu), (0x1EE5, .ll), (0x1EE6, .lu), (0x1EE7, .ll), (0x1EE8, .lu), (0x1EE9, .ll),
  (0x1EEA, .lu), (0x1EEB, .ll), (0x1EEC, .lu), (0x1EED, .ll), (0x1EEE, .lu), (0x1EEF, .ll),
  (0x1EF0, .lu), (0x1EF1, .ll), (0x1EF2, .lu), (0x1EF3, .ll), (0x1EF4, .lu), (0x1EF5, .ll),
  (0x1EF6, .lu), (0x1EF7, .ll), (0x1EF8, .lu), (0x1EF9, .ll), (0x1EFA, .lu), (0x1EFB, .ll),
  (0x1EFC, .lu), (0x1EFD, .ll), (0x1EFE, .lu), (0x1EFF, .ll), (0x1F08, .lu), (0x1F10, .ll),
  (0x1F16, .cn), (0x1F18, .lu), (0x1F1E, .cn), (0x1F20, .ll), (0x1F28, .lu), (0x1F30, .ll),
  (0x1F38, .lu), (0x1F40, .ll), (0x1F46, .cn), (0x1F48, .lu), (0x1F4E, .cn), (0x1F50, .ll),
  (0x1F58, .cn), (0x1F59, .lu), (0x1F5A, .cn), (0x1F5B, .lu), (0x1F5C, .cn), (0x1F5D, .lu),
  (0x1F5E, .cn), (0x1F5F, .lu), (0x1F60, .ll), (0x1F68, .lu), (0x1F70, .ll), (0x1F7E, .cn),
  (0x1F80, .ll), (0x1F88, .lt), (0x1F90, .ll), (0x1F98, .lt), (0x1FA0, .ll), (0x1FA8, .lt),
  (0x1FB0, .ll), (0x1FB5, .cn), (0x1FB6, .ll), (0x1FB8, .lu), (0x1FBC, .lt), (0x1FBD, .sk),
  (0x1FBE, .ll), (0x1FBF, .sk), (0x1FC2, .ll), (0x1FC5, .cn), (0x1FC6, .ll), (0x1FC8, .lu),
  (0x1FCC, .lt), (0x1FCD, .sk), (0x1FD0, .ll), (0x1FD4, .cn), (0x1FD6, .ll), (0x1FD8, .lu),
  (0x1FDC, .cn), (0x1FDD, .sk), (0x1FE0, .ll), (0x1FE8, .lu), (0x1FED, .sk), (0x1FF0, .cn),
  (0x1FF2, .ll), (0x1FF5, .cn), (0x1FF6, .ll), (0x1FF8, .lu), (0x1FFC, .lt), (0x1FFD, .sk),
  (0x1FFF, .cn), (0x2000, .zs), (0x200B, .cf), (0x2010, .pd), (0x2016, .po), (0x2018, .pi),
  (0x2019, .pf), (0x201A, .ps), (0x201B, .pi), (0x201D, .pf), (0x201E, .ps), (0x201F, .pi),
  (0x2020, .po), (0x2028, .zl), (0x2029, .zp), (0x202A, .cf), (0x202F, .zs), (0x2030, .po),
  (0x2039, .pi), (0x203A, .pf), (0x203B, .po), (0x203F, .pc), (0x2041, .po), (0x2044, .sm),
  (0x2045, .ps), (0x2046, .pe), (0x2047, .po), (0x2052, .sm), (0x2053, .po), (0x2054, .pc),
  (0x2055, .po), (0x205F, .zs), (0x2060, .cf), (0x2065, .cn), (0x2066, .cf), (0x2070, .no),
  (0x2071, .lm), (0x2072, .cn), (0x2074, .no), (0x207A, .sm), (0x207D, .ps), (0x207E, .pe),
  (0x207F, .lm), (0x2080, .no), (0x208A, .sm), (0x208D, .ps), (0x208E, .pe), (0x208F, .cn),
  (0x2090, .lm), (0x209D, .cn), (0x20A0, .sc), (0x20C2, .cn), (0x20D0, .mn), (0x20DD, .me),
  (0x20E1, .mn), (0x20E2, .me), (0x20E5, .mn), (0x20F1, .cn), (0x2100, .so), (0x2102, .lu),
  (0x2103, .so), (0x2107, .lu), (0x2108, .so), (0x210A, .ll), (0x210B, .lu), (0x210E, .ll),
  (0x2110, .lu), (0x2113, .ll), (0x2114, .so), (0x2115, .lu), (0x2116, .so), (0x2118, .sm),
  (0x2119, .lu), (0x211E, .so), (0x2124, .lu), (0x2125, .so), (0x2126, .lu), (0x2127, .so),
  (0x2128, .lu), (0x2129, .so), (0x212A, .lu), (0x212E, .so), (0x212F, .ll), (0x2130, .lu),
  (0x2134, .ll), (0x2135, .lo), (0x2139, .ll), (0x213A, .so), (0x213C, .ll), (0x213E, .lu),
  (0x2140, .sm), (0x2145, .lu), (0x2146, .ll), (0x214A, .so), (0x214B, .sm), (0x214C, .so),
  (0x214E, .ll), (0x214F, .so), (0x2150, .no), (0x2160, .nl), (0x2183, .lu), (0x2184, .ll),
  (0x2185, .nl), (0x2189, .no), (0x218A, .so), (0x218C, .cn), (0x2190, .sm), (0x2195, .so),
  (0x219A, .sm), (0x219C, .so), (0x21A0, .sm), (0x21A1, .so), (0x21A3, .sm), (0x21A4, .so),
  (0x21A6, .sm), (0x21A7, .so), (0x21AE, .sm), (0x21AF, .so), (0x21CE, .sm), (0x21D0, .so),
  (0x21D2, .sm), (0x21D3, .so), (0x21D4, .sm), (0x21D5, .so), (0x21F4, .sm), (0x2300, .so),
  (0x2308, .ps), (0x2309, .pe), (0x230A, .ps), (0x230B, .pe), (0x230C, .so), (0x2320, .sm),
  (0x2322, .so), (0x2329, .ps), (0x232A, .pe), (0x232B, .so), (0x237C, .sm), (0x237D, .so),
  (0x239B, .sm), (0x23B4, .so), (0x23DC, .sm), (0x23E2, .so), (0x242A, .cn), (0x2440, .so),
  (0x244B, .cn), (0x2460, .no), (0x249C, .so), (0x24EA, .no), (0x2500, .so), (0x25B7, .sm),
  (0x25B8, .so), (0x25C1, .sm), (0x25C2, .so), (0x25F8, .sm), (0x2600, .so), (0x266F, .sm),
  (0x2670, .so), (0x2768, .ps), (0x2769, .pe), (0x276A, .ps), (0x276B, .pe), (0x276C, .ps),
  (0x276D, .pe), (0x276E, .ps), (0x276F, .pe), (0x2770, .ps), (0x2771, .pe), (0x2772, .ps),
  (0x2773, .pe), (0x2774, .ps), (0x2775, .pe), (0x2776, .no), (0x2794, .so), (0x27C0, .sm),
  (0x27C5, .ps), (0x27C6, .pe), (0x27C7, .sm), (0x27E6, .ps), (0x27E7, .pe), (0x27E8, .ps),
  (0x27E9, .pe), (0x27EA, .ps), (0x27EB, .pe), (0x27EC, .ps), (0x27ED, .pe), (0x27EE, .ps),
  (0x27EF, .pe), (0x27F0, .sm), (0x2800, .so), (0x2900, .sm), (0x2983, .ps), (0x2984, .pe),
  (0x2985, .ps), (0x2986, .pe), (0x2987, .ps), (0x2988, .pe), (0x2989, .ps), (0x298A, .pe),
  (0x298B, .ps), (0x298C, .pe), (0x298D, .ps), (0x298E, .pe), (0x298F, .ps), (0x2990, .pe),
  (0x2991, .ps), (0x2992, .pe), (0x2993, .ps), (0x2994, .pe), (0x2995, .ps), (0x2996, .pe),
  (0x2997, .ps), (0x2998, .pe), (0x2999, .sm), (0x29D8, .ps), (0x29D9, .pe), (0x29DA, .ps),
  (0x29DB, .pe), (0x29DC, .sm), (0x29FC, .ps), (0x29FD, .pe), (0x29FE, .sm), (0x2B00, .so),
  (0x2B30, .sm), (0x2B45, .so), (0x2B47, .sm), (0x2B4D, .so), (0x2B74, .cn), (0x2B76, .so),
  (0x2C00, .lu), (0x2C30, .ll), (0x2C60, .lu), (0x2C61, .ll), (0x2C62, .lu), (0x2C65, .ll),
  (0x2C67, .lu), (0x2C68, .ll), (0x2C69, .lu), (0x2C6A, .ll), (0x2C6B, .lu), (0x2C6C, .ll),
  (0x2C6D, .lu), (0x2C71, .ll), (0x2C72, .lu), (0x2C73, .ll), (0x2C75, .lu), (0x2C76, .ll),
  (0x2C7C, .lm), (0x2C7E, .lu), (0x2C81, .ll), (0x2C82, .lu), (0x2C83, .ll), (0x2C84, .lu),
  (0x2C85, .ll), (0x2C86, .lu), (0x2C87, .ll), (0x2C88, .lu), (0x2C89, .ll), (0x2C8A, .lu),
  (0x2C8B, .ll), (0x2C8C, .lu), (0x2C8D, .ll), (0x2C8E, .lu), (0x2C8F, .ll), (0x2C90, .lu),
  (0x2C91, .ll), (0x2C92, .lu), (0x2C93, .ll), (0x2C94, .lu), (0x2C95, .ll), (0x2C96, .lu),
  (0x2C97, .ll), (0x2C98, .lu), (0x2C99, .ll), (0x2C9A, .lu), (0x2C9B, .ll), (0x2C9C, .lu),
  (0x2C9D, .ll), (0x2C9E, .lu), (0x2C9F, .ll), (0x2CA0, .lu), (0x2CA1, .ll), (0x2CA2, .lu),
  (0x2CA3, .ll), (0x2CA4, .lu), (0x2CA5, .ll), (0x2CA6, .lu), (0x2CA7, .ll), (0x2CA8, .lu),
  (0x2CA9, .ll), (0x2CAA, .lu), (0x2CAB, .ll), (0x2CAC, .lu), (0x2CAD, .ll), (0x2CAE, .lu),
  (0x2CAF, .ll), (0x2CB0, .lu), (0x2CB1, .ll), (0x2CB2, .lu), (0x2CB3, .ll), (0x2CB4, .lu),
  (0x2CB5, .ll), (0x2CB6, .lu), (0x2CB7, .ll), (0x2CB8, .lu), (0x2CB9, .ll), (0x2CBA, .lu),
  (0x2CBB, .ll), (0x2CBC, .lu), (0x2CBD, .ll), (0x2CBE, .lu), (0x2CBF, .ll), (0x2CC0, .lu),
  (0x2CC1, .ll), (0x2CC2, .lu), (0x2CC3, .ll), (0x2CC4, .lu), (0x2CC5, .ll), (0x2CC6, .lu),
  (0x2CC7, .ll), (0x2CC8, .lu), (0x2CC9, .ll), (0x2CCA, .lu), (0x2CCB, .ll), (0x2CCC, .lu),
  (0x2CCD, .ll), (0x2CCE, .lu), (0x2CCF, .ll), (0x2CD0, .lu), (0x2CD1, .ll), (0x2CD2, .lu),
  (0x2CD3, .ll), (0x2CD4, .lu), (0x2CD5, .ll), (0x2CD6, .lu), (0x2CD7, .ll), (0x2CD8, .lu),
  (0x2CD9, .ll), (0x2CDA, .lu), (0x2CDB, .ll), (0x2CDC, .lu), (0x2CDD, .ll), (0x2CDE, .lu),
  (0x2CDF, .ll), (0x2CE0, .lu), (0x2CE1, .ll), (0x2CE2, .lu), (0x2CE3, .ll), (0x2CE5, .so),
  (0x2CEB, .lu), (0x2CEC, .ll), (0x2CED, .lu), (0x2CEE, .ll), (0x2CEF, .mn), (0x2CF2, .lu),
  (0x2CF3, .ll), (0x2CF4, .cn), (0x2CF9, .po), (0x2CFD, .no), (0x2CFE, .po), (0x2D00, .ll),
  (0x2D26, .cn), (0x2D27, .ll), (0x2D28, .cn), (0x2D2D, .ll), (0x2D2E, .cn), (0x2D30, .lo),
  (0x2D68, .cn), (0x2D6F, .lm), (0x2D70, .po), (0x2D71, .cn), (0x2D7F, .mn), (0x2D80, .lo),
  (0x2D97, .cn), (0x2DA0, .lo), (0x2DA7, .cn), (0x2DA8, .lo), (0x2DAF, .cn), (0x2DB0, .lo),
  (0x2DB7, .cn), (0x2DB8, .lo), (0x2DBF, .cn), (0x2DC0, .lo), (0x2DC7, .cn), (0x2DC8, .lo),
  (0x2DCF, .cn), (0x2DD0, .lo), (0x2DD7, .cn), (0x2DD8, .lo), (0x2DDF, .cn), (0x2DE0, .mn),
  (0x2E00, .po), (0x2E02, .pi), (0x2E03, .pf), (0x2E04, .pi), (0x2E05, .pf), (0x2E06, .po),
  (0x2E09, .pi), (0x2E0A, .pf), (0x2E0B, .po), (0x2E0C, .pi), (0x2E0D, .pf), (0x2E0E, .po),
  (0x2E17, .pd), (0x2E18, .po), (0x2E1A, .pd), (0x2E1B, .po), (0x2E1C, .pi), (0x2E1D, .pf),
  (0x2E1E, .po), (0x2E20, .pi), (0x2E21, .pf), (0x2E22, .ps), (0x2E23, .pe), (0x2E24, .ps),
  (0x2E25, .pe), (0x2E26, .ps), (0x2E27, .pe), (0x2E28, .ps), (0x2E29, .pe), (0x2E2A, .po),
  (0x2E2F, .lm), (0x2E30, .po), (0x2E3A, .pd), (0x2E3C, .po), (0x2E40, .pd), (0x2E41, .po),
  (0x2E42, .ps), (0x2E43, .po), (0x2E50, .so), (0x2E52, .po), (0x2E55, .ps), (0x2E56, .pe),
  (0x2E57, .ps), (0x2E58, .pe), (0x2E59, .ps), (0x2E5A, .pe), (0x2E5B, .ps), (0x2E5C, .pe),
  (0x2E5D, .pd), (0x2E5E, .cn), (0x2E80, .so), (0x2E9A, .cn), (0x2E9B, .so), (0x2EF4, .cn),
  (0x2F00, .so), (0x2FD6, .cn), (0x2FF0, .so), (0x3000, .zs), (0x3001, .po), (0x3004, .so),
  (0x3005, .lm), (0x3006, .lo), (0x3007, .nl), (0x3008, .ps), (0x3009, .pe), (0x300A, .ps),
  (0x300B, .pe), (0x300C, .ps), (0x300D, .pe), (0x300E, .ps), (0x300F, .pe), (0x3010, .ps),
  (0x3011, .pe), (0x3012, .so), (0x3014, .ps), (0x3015, .pe), (0x3016, .ps), (0x3017, .pe),
  (0x3018, .ps), (0x3019, .pe), (0x301A, .ps), (0x301B, .pe), (0x301C, .pd), (0x301D, .ps),
  (0x301E, .pe), (0x3020, .so), (0x3021, .nl), (0x302A, .mn), (0x302E, .mc), (0x3030, .pd),
  (0x3031, .lm), (0x3036, .so), (0x3038, .nl), (0x303B, .lm), (0x303C, .lo), (0x303D, .po),
  (0x303E, .so), (0x3040, .cn), (0x3041, .lo), (0x3097, .cn), (0x3099, .mn), (0x309B, .sk),
  (0x309D, .lm), (0x309F, .lo), (0x30A0, .pd), (0x30A1, .lo), (0x30FB, .po), (0x30FC, .lm),
  (0x30FF, .lo), (0x3100, .cn), (0x3105, .lo), (0x3130, .cn), (0x3131, .lo), (0x318F, .cn),
  (0x3190, .so), (0x3192, .no), (0x3196, .so), (0x31A0, .lo), (0x31C0, .so), (0x31E6, .cn),
  (0x31EF, .so), (0x31F0, .lo), (0x3200, .so), (0x321F, .cn), (0x3220, .no), (0x322A, .so),
  (0x3248, .no), (0x3250, .so), (0x3251, .no), (0x3260, .so), (0x3280, .no), (0x328A, .so),
  (0x32B1, .no), (0x32C0, .so), (0x3400, .lo), (0x4DC0, .so), (0x4E00, .lo), (0xA015, .lm),
  (0xA016, .lo), (0xA48D, .cn), (0xA490, .so), (0xA4C7, .cn), (0xA4D0, .lo), (0xA4F8, .lm),
  (0xA4FE, .po), (0xA500, .lo), (0xA60C, .lm), (0xA60D, .po), (0xA610, .lo), (0xA620, .nd),
  (0xA62A, .lo), (0xA62C, .cn), (0xA640, .lu), (0xA641, .ll), (0xA642, .lu), (0xA643, .ll),
  (0xA644, .lu), (0xA645, .ll), (0xA646, .lu), (0xA647, .ll), (0xA648, .lu), (0xA649, .ll),
  (0xA64A, .lu), (0xA64B, .ll), (0xA64C, .lu), (0xA64D, .ll), (0xA64E, .lu), (0xA64F, .ll),
  (0xA650, .lu), (0xA651, .ll), (0xA652, .lu), (0xA653, .ll), (0xA654, .lu), (0xA655, .ll),
  (0xA656, .lu), (0xA657, .ll), (0xA658, .lu), (0xA659, .ll), (0xA65A, .lu), (0xA65B, .ll),
  (0xA65C, .lu), (0xA65D, .ll), (0xA65E, .lu), (0xA65F, .ll), (0xA660, .lu), (0xA661, .ll),
  (0xA662, .lu), (0xA663, .ll), (0xA664, .lu), (0xA665, .ll), (0xA666, .lu), (0xA667, .ll),
  (0xA668, .lu), (0xA669, .ll), (0xA66A, .lu), (0xA66B, .ll), (0xA66C, .lu), (0xA66D, .ll),
  (0xA66E, .lo), (0xA66F, .mn), (0xA670, .me), (0xA673, .po), (0xA674, .mn), (0xA67E, .po),
  (0xA67F, .lm), (0xA680, .lu), (0xA681, .ll), (0xA682, .lu), (0xA683, .ll), (0xA684, .lu),
  (0xA685, .ll), (0xA686, .lu), (0xA687, .ll), (0xA688, .lu), (0xA689, .ll), (0xA68A, .lu),
  (0xA68B, .ll), (0xA68C, .lu), (0xA68D, .ll), (0xA68E, .lu), (0xA68F, .ll), (0xA690, .lu),
  (0xA691, .ll), (0xA692, .lu), (0xA693, .ll), (0xA694, .lu), (0xA695, .ll), (0xA696, .lu),
  (0xA697, .ll), (0xA698, .lu), (0xA699, .ll), (0xA69A, .lu), (0xA69B, .ll), (0xA69C, .lm),
  (0xA69E, .mn), (0xA6A0, .lo), (0xA6E6, .nl), (0xA6F0, .mn), (0xA6F2, .po), (0xA6F8, .cn),
  (0xA700, .sk), (0xA717, .lm), (0xA720, .sk), (0xA722, .lu), (0xA723, .ll), (0xA724, .lu),
  (0xA725, .ll), (0xA726, .lu), (0xA727, .ll), (0xA728, .lu), (0xA729, .ll), (0xA72A, .lu),
  (0xA72B, .ll), (0xA72C, .lu), (0xA72D, .ll), (0xA72E, .lu), (0xA72F, .ll), (0xA732, .lu),
  (0xA733, .ll), (0xA734, .lu), (0xA735, .ll), (0xA736, .lu), (0xA737, .ll), (0xA738, .lu),
  (0xA739, .ll), (0xA73A, .lu), (0xA73B, .ll), (0xA73C, .lu), (0xA73D, .ll), (0xA73E, .lu),
  (0xA73F, .ll), (0xA740, .lu), (0xA741, .ll), (0xA742, .lu), (0xA743, .ll), (0xA744, .lu),
  (0xA745, .ll), (0xA746, .lu), (0xA747, .ll), (0xA748, .lu), (0xA749, .ll), (0xA74A, .lu),
  (0xA74B, .ll), (0xA74C, .lu), (0xA74D, .ll), (0xA74E, .lu), (0xA74F, .ll), (0xA750, .lu),
  (0xA751, .ll), (0xA752, .lu), (0xA753, .ll), (0xA754, .lu), (0xA755, .ll), (0xA756, .lu),
  (0xA757, .ll), (0xA758, .lu), (0xA759, .ll), (0xA75A, .lu), (0xA75B, .ll), (0xA75C, .lu),
  (0xA75D, .ll), (0xA75E, .lu), (0xA75F, .ll), (0xA760, .lu), (0xA761, .ll), (0xA762, .lu),
  (0xA763, .ll), (0xA764, .lu), (0xA765, .ll), (0xA766, .lu), (0xA767, .ll), (0xA768, .lu),
  (0xA769, .ll), (0xA76A, .lu), (0xA76B, .ll), (0xA76C, .lu), (0xA76D, .ll), (0xA76E, .lu),
  (0xA76F, .ll), (0xA770, .lm), (0xA771, .ll), (0xA779, .lu), (0xA77A, .ll), (0xA77B, .lu),
  (0xA77C, .ll), (0xA77D, .lu), (0xA77F, .ll), (0xA780, .lu), (0xA781, .ll), (0xA782, .lu),
  (0xA783, .ll), (0xA784, .lu), (0xA785, .ll), (0xA786, .lu), (0xA787, .ll), (0xA788, .lm),
  (0xA789, .sk), (0xA78B, .lu), (0xA78C, .ll), (0xA78D, .lu), (0xA78E, .ll), (0xA78F, .lo),
  (0xA790, .lu), (0xA791, .ll), (0xA792, .lu), (0xA793, .ll), (0xA796, .lu), (0xA797, .ll),
  (0xA798, .lu), (0xA799, .ll), (0xA79A, .lu), (0xA79B, .ll), (0xA79C, .lu), (0xA79D, .ll),
  (0xA79E, .lu), (0xA79F, .ll), (0xA7A0, .lu), (0xA7A1, .ll), (0xA7A2, .lu), (0xA7A3, .ll),
  (0xA7A4, .lu), (0xA7A5, .ll), (0xA7A6, .lu), (0xA7A7, .ll), (0xA7A8, .lu), (0xA7A9, .ll),
  (0xA7AA, .lu), (0xA7AF, .ll), (0xA7B0, .lu), (0xA7B5, .ll), (0xA7B6, .lu), (0xA7B7, .ll),
  (0xA7B8, .lu), (0xA7B9, .ll), (0xA7BA, .lu), (0xA7BB, .ll), (0xA7BC, .lu), (0xA7BD, .ll),
  (0xA7BE, .lu), (0xA7BF, .ll), (0xA7C0, .lu), (0xA7C1, .ll), (0xA7C2, .lu), (0xA7C3, .ll),
  (0xA7C4, .lu), (0xA7C8, .ll), (0xA7C9, .lu), (0xA7CA, .ll), (0xA7CB, .lu), (0xA7CD, .ll),
  (0xA7CE, .lu), (0xA7CF, .ll), (0xA7D0, .lu), (0xA7D1, .ll), (0xA7D2, .lu), (0xA7D3, .ll),
  (0xA7D4, .lu), (0xA7D5, .ll), (0xA7D6, .lu), (0xA7D7, .ll), (0xA7D8, .lu), (0xA7D9, .ll),
  (0xA7DA, .lu), (0xA7DB, .ll), (0xA7DC, .lu), (0xA7DD, .cn), (0xA7F1, .lm), (0xA7F5, .lu),
  (0xA7F6, .ll), (0xA7F7, .lo), (0xA7F8, .lm), (0xA7FA, .ll), (0xA7FB, .lo), (0xA802, .mn),
  (0xA803, .lo), (0xA806, .mn), (0xA807, .lo), (0xA80B, .mn), (0xA80C, .lo), (0xA823, .mc),
  (0xA825, .mn), (0xA827, .mc), (0xA828, .so), (0xA82C, .mn), (0xA82D, .cn), (0xA830, .no),
  (0xA836, .so), (0xA838, .sc), (0xA839, .so), (0xA83A, .cn), (0xA840, .lo), (0xA874, .po),
  (0xA878, .cn), (0xA880, .mc), (0xA882, .lo), (0xA8B4, .mc), (0xA8C4, .mn), (0xA8C6, .cn),
  (0xA8CE, .po), (0xA8D0, .nd), (0xA8DA, .cn), (0xA8E0, .mn), (0xA8F2, .lo), (0xA8F8, .po),
  (0xA8FB, .lo), (0xA8FC, .po), (0xA8FD, .lo), (0xA8FF, .mn), (0xA900, .nd), (0xA90A, .lo),
  (0xA926, .mn), (0xA92E, .po), (0xA930, .lo), (0xA947, .mn), (0xA952, .mc), (0xA954, .cn),
  (0xA95F, .po), (0xA960, .lo), (0xA97D, .cn), (0xA980, .mn), (0xA983, .mc), (0xA984, .lo),
  (0xA9B3, .mn), (0xA9B4, .mc), (0xA9B6, .mn), (0xA9BA, .mc), (0xA9BC, .mn), (0xA9BE, .mc),
  (0xA9C1, .po), (0xA9CE, .cn), (0xA9CF, .lm), (0xA9D0, .nd), (0xA9DA, .cn), (0xA9DE, .po),
  (0xA9E0, .lo), (0xA9E5, .mn), (0xA9E6, .lm), (0xA9E7, .lo), (0xA9F0, .nd), (0xA9FA, .lo),
  (0xA9FF, .cn), (0xAA00, .lo), (0xAA29, .mn), (0xAA2F, .mc), (0xAA31, .mn), (0xAA33, .mc),
  (0xAA35, .mn), (0xAA37, .cn), (0xAA40, .lo), (0xAA43, .mn), (0xAA44, .lo), (0xAA4C, .mn),
  (0xAA4D, .mc), (0xAA4E, .cn), (0xAA50, .nd), (0xAA5A, .cn), (0xAA5C, .po), (0xAA60, .lo),
  (0xAA70, .lm), (0xAA71, .lo), (0xAA77, .so), (0xAA7A, .lo), (0xAA7B, .mc), (0xAA7C, .mn),
  (0xAA7D, .mc), (0xAA7E, .lo), (0xAAB0, .mn), (0xAAB1, .lo), (0xAAB2, .mn), (0xAAB5, .lo),
  (0xAAB7, .mn), (0xAAB9, .lo), (0xAABE, .mn), (0xAAC0, .lo), (0xAAC1, .mn), (0xAAC2, .lo),
  (0xAAC3, .cn), (0xAADB, .lo), (0xAADD, .lm), (0xAADE, .po), (0xAAE0, .lo), (0xAAEB, .mc),
  (0xAAEC, .mn), (0xAAEE, .mc), (0xAAF0, .po), (0xAAF2, .lo), (0xAAF3, .lm), (0xAAF5, .mc),
  (0xAAF6, .mn), (0xAAF7, .cn), (0xAB01, .lo), (0xAB07, .cn), (0xAB09, .lo), (0xAB0F, .cn),
  (0xAB11, .lo), (0xAB17, .cn), (0xAB20, .lo), (0xAB27, .cn), (0xAB28, .lo), (0xAB2F, .cn),
  (0xAB30, .ll), (0xAB5B, .sk), (0xAB5C, .lm), (0xAB60, .ll), (0xAB69, .lm), (0xAB6A, .sk),
  (0xAB6C, .cn), (0xAB70, .ll), (0xABC0, .lo), (0xABE3, .mc), (0xABE5, .mn), (0xABE6, .mc),
  (0xABE8, .mn), (0xABE9, .mc), (0xABEB, .po), (0xABEC, .mc), (0xABED, .mn), (0xABEE, .cn),
  (0xABF0, .nd), (0xABFA, .cn), (0xAC00, .lo), (0xD7A4, .cn), (0xD7B0, .lo), (0xD7C7, .cn),
  (0xD7CB, .lo), (0xD7FC, .cn), (0xD800, .cs), (0xE000, .co), (0xF900, .lo), (0xFA6E, .cn),
  (0xFA70, .lo), (0xFADA, .cn), (0xFB00, .ll), (0xFB07, .cn), (0xFB13, .ll), (0xFB18, .cn),
  (0xFB1D, .lo), (0xFB1E, .mn), (0xFB1F, .lo), (0xFB29, .sm), (0xFB2A, .lo), (0xFB37, .cn),
  (0xFB38, .lo), (0xFB3D, .cn), (0xFB3E, .lo), (0xFB3F, .cn), (0xFB40, .lo), (0xFB42, .cn),
  (0xFB43, .lo), (0xFB45, .cn), (0xFB46, .lo), (0xFBB2, .sk), (0xFBC3, .so), (0xFBD3, .lo),
  (0xFD3E, .pe), (0xFD3F, .ps), (0xFD40, .so), (0xFD50, .lo), (0xFD90, .so), (0xFD92, .lo),
  (0xFDC8, .so), (0xFDD0, .cn), (0xFDF0, .lo), (0xFDFC, .sc), (0xFDFD, .so), (0xFE00, .mn),
  (0xFE10, .po), (0xFE17, .ps), (0xFE18, .pe), (0xFE19, .po), (0xFE1A, .cn), (0xFE20, .mn),
  (0xFE30, .po), (0xFE31, .pd), (0xFE33, .pc), (0xFE35, .ps), (0xFE36, .pe), (0xFE37, .ps),
  (0xFE38, .pe), (0xFE39, .ps), (0xFE3A, .pe), (0xFE3B, .ps), (0xFE3C, .pe), (0xFE3D, .ps),
  (0xFE3E, .pe), (0xFE3F, .ps), (0xFE40, .pe), (0xFE41, .ps), (0xFE42, .pe), (0xFE43, .ps),
  (0xFE44, .pe), (0xFE45, .po), (0xFE47, .ps), (0xFE48, .pe), (0xFE49, .po), (0xFE4D, .pc),
  (0xFE50, .po), (0xFE53, .cn), (0xFE54, .po), (0xFE58, .pd), (0xFE59, .ps), (0xFE5A, .pe),
  (0xFE5B, .ps), (0xFE5C, .pe), (0xFE5D, .ps), (0xFE5E, .pe), (0xFE5F, .po), (0xFE62, .sm),
  (0xFE63, .pd), (0xFE64, .sm), (0xFE67, .cn), (0xFE68, .po), (0xFE69, .sc), (0xFE6A, .po),
  (0xFE6C, .cn), (0xFE70, .lo), (0xFE75, .cn), (0xFE76, .lo), (0xFEFD, .cn), (0xFEFF, .cf),
  (0xFF00, .cn), (0xFF01, .po), (0xFF04, .sc), (0xFF05, .po), (0xFF08, .ps), (0xFF09, .pe),
  (0xFF0A, .po), (0xFF0B, .sm), (0xFF0C, .po), (0xFF0D, .pd), (0xFF0E, .po), (0xFF10, .nd),
  (0xFF1A, .po), (0xFF1C, .sm), (0xFF1F, .po), (0xFF21, .lu), (0xFF3B, .ps), (0xFF3C, .po),
  (0xFF3D, .pe), (0xFF3E, .sk), (0xFF3F, .pc), (0xFF40, .sk), (0xFF41, .ll), (0xFF5B, .ps),
  (0xFF5C, .sm), (0xFF5D, .pe), (0xFF5E, .sm), (0xFF5F, .ps), (0xFF60, .pe), (0xFF61, .po),
  (0xFF62, .ps), (0xFF63, .pe), (0xFF64, .po), (0xFF66, .lo), (0xFF70, .lm), (0xFF71, .lo),
  (0xFF9E, .lm), (0xFFA0, .lo), (0xFFBF, .cn), (0xFFC2, .lo), (0xFFC8, .cn), (0xFFCA, .lo),
  (0xFFD0, .cn), (0xFFD2, .lo), (0xFFD8, .cn), (0xFFDA, .lo), (0xFFDD, .cn), (0xFFE0, .sc),
  (0xFFE2, .sm), (0xFFE3, .sk), (0xFFE4, .so), (0xFFE5, .sc), (0xFFE7, .cn), (0xFFE8, .so),
  (0xFFE9, .sm), (0xFFED, .so), (0xFFEF, .cn), (0xFFF9, .cf), (0xFFFC, .so), (0xFFFE, .cn),
  (0x10000, .lo), (0x1000C, .cn), (0x1000D, .lo), (0x10027, .cn), (0x10028, .lo), (0x1003B, .cn),
  (0x1003C, .lo), (0x1003E, .cn), (0x1003F, .lo), (0x1004E, .cn), (0x10050, .lo), (0x1005E, .cn),
  (0x10080, .lo), (0x100FB, .cn), (0x10100, .po), (0x10103, .cn), (0x10107, .no), (0x10134, .cn),
  (0x10137, .so), (0x10140, .nl), (0x10175, .no), (0x10179, .so), (0x1018A, .no), (0x1018C, .so),
  (0x1018F, .cn), (0x10190, .so), (0x1019D, .cn), (0x101A0, .so), (0x101A1, .cn), (0x101D0, .so),
  (0x101FD, .mn), (0x101FE, .cn), (0x10280, .lo), (0x1029D, .cn), (0x102A0, .lo), (0x102D1, .cn),
  (0x102E0, .mn), (0x102E1, .no), (0x102FC, .cn), (0x10300, .lo), (0x10320, .no), (0x10324, .cn),
  (0x1032D, .lo), (0x10341, .nl), (0x10342, .lo), (0x1034A, .nl), (0x1034B, .cn), (0x10350, .lo),
  (0x10376, .mn), (0x1037B, .cn), (0x10380, .lo), (0x1039E, .cn), (0x1039F, .po), (0x103A0, .lo),
  (0x103C4, .cn), (0x103C8, .lo), (0x103D0, .po), (0x103D1, .nl), (0x103D6, .cn), (0x10400, .lu),
  (0x10428, .ll), (0x10450, .lo), (0x1049E, .cn), (0x104A0, .nd), (0x104AA, .cn), (0x104B0, .lu),
  (0x104D4, .cn), (0x104D8, .ll), (0x104FC, .cn), (0x10500, .lo), (0x10528, .cn), (0x10530, .lo),
  (0x10564, .cn), (0x1056F, .po), (0x10570, .lu), (0x1057B, .cn), (0x1057C, .lu), (0x1058B, .cn),
  (0x1058C, .lu), (0x10593, .cn), (0x10594, .lu), (0x10596, .cn), (0x10597, .ll), (0x105A2, .cn),
  (0x105A3, .ll), (0x105B2, .cn), (0x105B3, .ll), (0x105BA, .cn), (0x105BB, .ll), (0x105BD, .cn),
  (0x105C0, .lo), (0x105F4, .cn), (0x10600, .lo), (0x10737, .cn), (0x10740, .lo), (0x10756, .cn),
  (0x10760, .lo), (0x10768, .cn), (0x10780, .lm), (0x10786, .cn), (0x10787, .lm), (0x107B1, .cn),
  (0x107B2, .lm), (0x107BB, .cn), (0x10800, .lo), (0x10806, .cn), (0x10808, .lo), (0x10809, .cn),
  (0x1080A, .lo), (0x10836, .cn), (0x10837, .lo), (0x10839, .cn), (0x1083C, .lo), (0x1083D, .cn),
  (0x1083F, .lo), (0x10856, .cn), (0x10857, .po), (0x10858, .no), (0x10860, .lo), (0x10877, .so),
  (0x10879, .no), (0x10880, .lo), (0x1089F, .cn), (0x108A7, .no), (0x108B0, .cn), (0x108E0, .lo),
  (0x108F3, .cn), (0x108F4, .lo), (0x108F6, .cn), (0x108FB, .no), (0x10900, .lo), (0x10916, .no),
  (0x1091C, .cn), (0x1091F, .po), (0x10920, .lo), (0x1093A, .cn), (0x1093F, .po), (0x10940, .lo),
  (0x1095A, .cn), (0x10980, .lo), (0x109B8, .cn), (0x109BC, .no), (0x109BE, .lo), (0x109C0, .no),
  (0x109D0, .cn), (0x109D2, .no), (0x10A00, .lo), (0x10A01, .mn), (0x10A04, .cn), (0x10A05, .mn),
  (0x10A07, .cn), (0x10A0C, .mn), (0x10A10, .lo), (0x10A14, .cn), (0x10A15, .lo), (0x10A18, .cn),
  (0x10A19, .lo), (0x10A36, .cn), (0x10A38, .mn), (0x10A3B, .cn), (0x10A3F, .mn), (0x10A40, .no),
  (0x10A49, .cn), (0x10A50, .po), (0x10A59, .cn), (0x10A60, .lo), (0x10A7D, .no), (0x10A7F, .po),
  (0x10A80, .lo), (0x10A9D, .no), (0x10AA0, .cn), (0x10AC0, .lo), (0x10AC8, .so), (0x10AC9, .lo),
  (0x10AE5, .mn), (0x10AE7, .cn), (0x10AEB, .no), (0x10AF0, .po), (0x10AF7, .cn), (0x10B00, .lo),
  (0x10B36, .cn), (0x10B39, .po), (0x10B40, .lo), (0x10B56, .cn), (0x10B58, .no), (0x10B60, .lo),
  (0x10B73, .cn), (0x10B78, .no), (0x10B80, .lo), (0x10B92, .cn), (0x10B99, .po), (0x10B9D, .cn),
  (0x10BA9, .no), (0x10BB0, .cn), (0x10C00, .lo), (0x10C49, .cn), (0x10C80, .lu), (0x10CB3, .cn),
  (0x10CC0, .ll), (0x10CF3, .cn), (0x10CFA, .no), (0x10D00, .lo), (0x10D24, .mn), (0x10D28, .cn),
  (0x10D30, .nd), (0x10D3A, .cn), (0x10D40, .nd), (0x10D4A, .lo), (0x10D4E, .lm), (0x10D4F, .lo),
  (0x10D50, .lu), (0x10D66, .cn), (0x10D69, .mn), (0x10D6E, .pd), (0x10D6F, .lm), (0x10D70, .ll),
  (0x10D86, .cn), (0x10D8E, .sm), (0x10D90, .cn), (0x10E60, .no), (0x10E7F, .cn), (0x10E80, .lo),
  (0x10EAA, .cn), (0x10EAB, .mn), (0x10EAD, .pd), (0x10EAE, .cn), (0x10EB0, .lo), (0x10EB2, .cn),
  (0x10EC2, .lo), (0x10EC5, .lm), (0x10EC6, .lo), (0x10EC8, .cn), (0x10ED0, .po), (0x10ED1, .so),
  (0x10ED9, .cn), (0x10EFA, .mn), (0x10F00, .lo), (0x10F1D, .no), (0x10F27, .lo), (0x10F28, .cn),
  (0x10F30, .lo), (0x10F46, .mn), (0x10F51, .no), (0x10F55, .po), (0x10F5A, .cn), (0x10F70, .lo),
  (0x10F82, .mn), (0x10F86, .po), (0x10F8A, .cn), (0x10FB0, .lo), (0x10FC5, .no), (0x10FCC, .cn),
  (0x10FE0, .lo), (0x10FF7, .cn), (0x11000, .mc), (0x11001, .mn), (0x11002, .mc), (0x11003, .lo),
  (0x11038, .mn), (0x11047, .po), (0x1104E, .cn), (0x11052, .no), (0x11066, .nd), (0x11070, .mn),
  (0x11071, .lo), (0x11073, .mn), (0x11075, .lo), (0x11076, .cn), (0x1107F, .mn), (0x11082, .mc),
  (0x11083, .lo), (0x110B0, .mc), (0x110B3, .mn), (0x110B7, .mc), (0x110B9, .mn), (0x110BB, .po),
  (0x110BD, .cf), (0x110BE, .po), (0x110C2, .mn), (0x110C3, .cn), (0x110CD, .cf), (0x110CE, .cn),
  (0x110D0, .lo), (0x110E9, .cn), (0x110F0, .nd), (0x110FA, .cn), (0x11100, .mn), (0x11103, .lo),
  (0x11127, .mn), (0x1112C, .mc), (0x1112D, .mn), (0x11135, .cn), (0x11136, .nd), (0x11140, .po),
  (0x11144, .lo), (0x11145, .mc), (0x11147, .lo), (0x11148, .cn), (0x11150, .lo), (0x11173, .mn),
  (0x11174, .po), (0x11176, .lo), (0x11177, .cn), (0x11180, .mn), (0x11182, .mc), (0x11183, .lo),
  (0x111B3, .mc), (0x111B6, .mn), (0x111BF, .mc), (0x111C1, .lo), (0x111C5, .po), (0x111C9, .mn),
  (0x111CD, .po), (0x111CE, .mc), (0x111CF, .mn), (0x111D0, .nd), (0x111DA, .lo), (0x111DB, .po),
  (0x111DC, .lo), (0x111DD, .po), (0x111E0, .cn), (0x111E1, .no), (0x111F5, .cn), (0x11200, .lo),
  (0x11212, .cn), (0x11213, .lo), (0x1122C, .mc), (0x1122F, .mn), (0x11232, .mc), (0x11234, .mn),
  (0x11235, .mc), (0x11236, .mn), (0x11238, .po), (0x1123E, .mn), (0x1123F, .lo), (0x11241, .mn),
  (0x11242, .cn), (0x11280, .lo), (0x11287, .cn), (0x11288, .lo), (0x11289, .cn), (0x1128A, .lo),
  (0x1128E, .cn), (0x1128F, .lo), (0x1129E, .cn), (0x1129F, .lo), (0x112A9, .po), (0x112AA, .cn),
  (0x112B0, .lo), (0x112DF, .mn), (0x112E0, .mc), (0x112E3, .mn), (0x112EB, .cn), (0x112F0, .nd),
  (0x112FA, .cn), (0x11300, .mn), (0x11302, .mc), (0x11304, .cn), (0x11305, .lo), (0x1130D, .cn),
  (0x1130F, .lo), (0x11311, .cn), (0x11313, .lo), (0x11329, .cn), (0x1132A, .lo), (0x11331, .cn),
  (0x11332, .lo), (0x11334, .cn), (0x11335, .lo), (0x1133A, .cn), (0x1133B, .mn), (0x1133D, .lo),
  (0x1133E, .mc), (0x11340, .mn), (0x11341, .mc), (0x11345, .cn), (0x11347, .mc), (0x11349, .cn),
  (0x1134B, .mc), (0x1134E, .cn), (0x11350, .lo), (0x11351, .cn), (0x11357, .mc), (0x11358, .cn),
  (0x1135D, .lo), (0x11362, .mc), (0x11364, .cn), (0x11366, .mn), (0x1136D, .cn), (0x11370, .mn),
  (0x11375, .cn), (0x11380, .lo), (0x1138A, .cn), (0x1138B, .lo), (0x1138C, .cn), (0x1138E, .lo),
  (0x1138F, .cn), (0x11390, .lo), (0x113B6, .cn), (0x113B7, .lo), (0x113B8, .mc), (0x113BB, .mn),
  (0x113C1, .cn), (0x113C2, .mc), (0x113C3, .cn), (0x113C5, .mc), (0x113C6, .cn), (0x113C7, .mc),
  (0x113CB, .cn), (0x113CC, .mc), (0x113CE, .mn), (0x113CF, .mc), (0x113D0, .mn), (0x113D1, .lo),
  (0x113D2, .mn), (0x113D3, .lo), (0x113D4, .po), (0x113D6, .cn), (0x113D7, .po), (0x113D9, .cn),
  (0x113E1, .mn), (0x113E3, .cn), (0x11400, .lo), (0x11435, .mc), (0x11438, .mn), (0x11440, .mc),
  (0x11442, .mn), (0x11445, .mc), (0x11446, .mn), (0x11447, .lo), (0x1144B, .po), (0x11450, .nd),
  (0x1145A, .po), (0x1145C, .cn), (0x1145D, .po), (0x1145E, .mn), (0x1145F, .lo), (0x11462, .cn),
  (0x11480, .lo), (0x114B0, .mc), (0x114B3, .mn), (0x114B9, .mc), (0x114BA, .mn), (0x114BB, .mc),
  (0x114BF, .mn), (0x114C1, .mc), (0x114C2, .mn), (0x114C4, .lo), (0x114C6, .po), (0x114C7, .lo),
  (0x114C8, .cn), (0x114D0, .nd), (0x114DA, .cn), (0x11580, .lo), (0x115AF, .mc), (0x115B2, .mn),
  (0x115B6, .cn), (0x115B8, .mc), (0x115BC, .mn), (0x115BE, .mc), (0x115BF, .mn), (0x115C1, .po),
  (0x115D8, .lo), (0x115DC, .mn), (0x115DE, .cn), (0x11600, .lo), (0x11630, .mc), (0x11633, .mn),
  (0x1163B, .mc), (0x1163D, .mn), (0x1163E, .mc), (0x1163F, .mn), (0x11641, .po), (0x11644, .lo),
  (0x11645, .cn), (0x11650, .nd), (0x1165A, .cn), (0x11660, .po), (0x1166D, .cn), (0x11680, .lo),
  (0x116AB, .mn), (0x116AC, .mc), (0x116AD, .mn), (0x116AE, .mc), (0x116B0, .mn), (0x116B6, .mc),
  (0x116B7, .mn), (0x116B8, .lo), (0x116B9, .po), (0x116BA, .cn), (0x116C0, .nd), (0x116CA, .cn),
  (0x116D0, .nd), (0x116E4, .cn), (0x11700, .lo), (0x1171B, .cn), (0x1171D, .mn), (0x1171E, .mc),
  (0x1171F, .mn), (0x11720, .mc), (0x11722, .mn), (0x11726, .mc), (0x11727, .mn), (0x1172C, .cn),
  (0x11730, .nd), (0x1173A, .no), (0x1173C, .po), (0x1173F, .so), (0x11740, .lo), (0x11747, .cn),
  (0x11800, .lo), (0x1182C, .mc), (0x1182F, .mn), (0x11838, .mc), (0x11839, .mn), (0x1183B, .po),
  (0x1183C, .cn), (0x118A0, .lu), (0x118C0, .ll), (0x118E0, .nd), (0x118EA, .no), (0x118F3, .cn),
  (0x118FF, .lo), (0x11907, .cn), (0x11909, .lo), (0x1190A, .cn), (0x1190C, .lo), (0x11914, .cn),
  (0x11915, .lo), (0x11917, .cn), (0x11918, .lo), (0x11930, .mc), (0x11936, .cn), (0x11937, .mc),
  (0x11939, .cn), (0x1193B, .mn), (0x1193D, .mc), (0x1193E, .mn), (0x1193F, .lo), (0x11940, .mc),
  (0x11941, .lo), (0x11942, .mc), (0x11943, .mn), (0x11944, .po), (0x11947, .cn), (0x11950, .nd),
  (0x1195A, .cn), (0x119A0, .lo), (0x119A8, .cn), (0x119AA, .lo), (0x119D1, .mc), (0x119D4, .mn),
  (0x119D8, .cn), (0x119DA, .mn), (0x119DC, .mc), (0x119E0, .mn), (0x119E1, .lo), (0x119E2, .po),
  (0x119E3, .lo), (0x119E4, .mc), (0x119E5, .cn), (0x11A00, .lo), (0x11A01, .mn), (0x11A0B, .lo),
  (0x11A33, .mn), (0x11A39, .mc), (0x11A3A, .lo), (0x11A3B, .mn), (0x11A3F, .po), (0x11A47, .mn),
  (0x11A48, .cn), (0x11A50, .lo), (0x11A51, .mn), (0x11A57, .mc), (0x11A59, .mn), (0x11A5C, .lo),
  (0x11A8A, .mn), (0x11A97, .mc), (0x11A98, .mn), (0x11A9A, .po), (0x11A9D, .lo), (0x11A9E, .po),
  (0x11AA3, .cn), (0x11AB0, .lo), (0x11AF9, .cn), (0x11B00, .po), (0x11B0A, .cn), (0x11B60, .mn),
  (0x11B61, .mc), (0x11B62, .mn), (0x11B65, .mc), (0x11B66, .mn), (0x11B67, .mc), (0x11B68, .cn),
  (0x11BC0, .lo), (0x11BE1, .po), (0x11BE2, .cn), (0x11BF0, .nd), (0x11BFA, .cn), (0x11C00, .lo),
  (0x11C09, .cn), (0x11C0A, .lo), (0x11C2F, .mc), (0x11C30, .mn), (0x11C37, .cn), (0x11C38, .mn),
  (0x11C3E, .mc), (0x11C3F, .mn), (0x11C40, .lo), (0x11C41, .po), (0x11C46, .cn), (0x11C50, .nd),
  (0x11C5A, .no), (0x11C6D, .cn), (0x11C70, .po), (0x11C72, .lo), (0x11C90, .cn), (0x11C92, .mn),
  (0x11CA8, .cn), (0x11CA9, .mc), (0x11CAA, .mn), (0x11CB1, .mc), (0x11CB2, .mn), (0x11CB4, .mc),
  (0x11CB5, .mn), (0x11CB7, .cn), (0x11D00, .lo), (0x11D07, .cn), (0x11D08, .lo), (0x11D0A, .cn),
  (0x11D0B, .lo), (0x11D31, .mn), (0x11D37, .cn), (0x11D3A, .mn), (0x11D3B, .cn), (0x11D3C, .mn),
  (0x11D3E, .cn), (0x11D3F, .mn), (0x11D46, .lo), (0x11D47, .mn), (0x11D48, .cn), (0x11D50, .nd),
  (0x11D5A, .cn), (0x11D60, .lo), (0x11D66, .cn), (0x11D67, .lo), (0x11D69, .cn), (0x11D6A, .lo),
  (0x11D8A, .mc), (0x11D8F, .cn), (0x11D90, .mn), (0x11D92, .cn), (0x11D93, .mc), (0x11D95, .mn),
  (0x11D96, .mc), (0x11D97, .mn), (0x11D98, .lo), (0x11D99, .cn), (0x11DA0, .nd), (0x11DAA, .cn),
  (0x11DB0, .lo), (0x11DD9, .lm), (0x11DDA, .lo), (0x11DDC, .cn), (0x11DE0, .nd), (0x11DEA, .cn),
  (0x11EE0, .lo), (0x11EF3, .mn), (0x11EF5, .mc), (0x11EF7, .po), (0x11EF9, .cn), (0x11F00, .mn),
  (0x11F02, .lo), (0x11F03, .mc), (0x11F04, .lo), (0x11F11, .cn), (0x11F12, .lo), (0x11F34, .mc),
  (0x11F36, .mn), (0x11F3B, .cn), (0x11F3E, .mc), (0x11F40, .mn), (0x11F41, .mc), (0x11F42, .mn),
  (0x11F43, .po), (0x11F50, .nd), (0x11F5A, .mn), (0x11F5B, .cn), (0x11FB0, .lo), (0x11FB1, .cn),
  (0x11FC0, .no), (0x11FD5, .so), (0x11FDD, .sc), (0x11FE1, .so), (0x11FF2, .cn), (0x11FFF, .po),
  (0x12000, .lo), (0x1239A, .cn), (0x12400, .nl), (0x1246F, .cn), (0x12470, .po), (0x12475, .cn),
  (0x12480, .lo), (0x12544, .cn), (0x12F90, .lo), (0x12FF1, .po), (0x12FF3, .cn), (0x13000, .lo),
  (0x13430, .cf), (0x13440, .mn), (0x13441, .lo), (0x13447, .mn), (0x13456, .cn), (0x13460, .lo),
  (0x143FB, .cn), (0x14400, .lo), (0x14647, .cn), (0x16100, .lo), (0x1611E, .mn), (0x1612A, .mc),
  (0x1612D, .mn), (0x16130, .nd), (0x1613A, .cn), (0x16800, .lo), (0x16A39, .cn), (0x16A40, .lo),
  (0x16A5F, .cn), (0x16A60, .nd), (0x16A6A, .cn), (0x16A6E, .po), (0x16A70, .lo), (0x16ABF, .cn),
  (0x16AC0, .nd), (0x16ACA, .cn), (0x16AD0, .lo), (0x16AEE, .cn), (0x16AF0, .mn), (0x16AF5, .po),
  (0x16AF6, .cn), (0x16B00, .lo), (0x16B30, .mn), (0x16B37, .po), (0x16B3C, .so), (0x16B40, .lm),
  (0x16B44, .po), (0x16B45, .so), (0x16B46, .cn), (0x16B50, .nd), (0x16B5A, .cn), (0x16B5B, .no),
  (0x16B62, .cn), (0x16B63, .lo), (0x16B78, .cn), (0x16B7D, .lo), (0x16B90, .cn), (0x16D40, .lm),
  (0x16D43, .lo), (0x16D6B, .lm), (0x16D6D, .po), (0x16D70, .nd), (0x16D7A, .cn), (0x16E40, .lu),
  (0x16E60, .ll), (0x16E80, .no), (0x16E97, .po), (0x16E9B, .cn), (0x16EA0, .lu), (0x16EB9, .cn),
  (0x16EBB, .ll), (0x16ED4, .cn), (0x16F00, .lo), (0x16F4B, .cn), (0x16F4F, .mn), (0x16F50, .lo),
  (0x16F51, .mc), (0x16F88, .cn), (0x16F8F, .mn), (0x16F93, .lm), (0x16FA0, .cn), (0x16FE0, .lm),
  (0x16FE2, .po), (0x16FE3, .lm), (0x16FE4, .mn), (0x16FE5, .cn), (0x16FF0, .mc), (0x16FF2, .lm),
  (0x16FF4, .nl), (0x16FF7, .cn), (0x17000, .lo), (0x18CD6, .cn), (0x18CFF, .lo), (0x18D1F, .cn),
  (0x18D80, .lo), (0x18DF3, .cn), (0x1AFF0, .lm), (0x1AFF4, .cn), (0x1AFF5, .lm), (0x1AFFC, .cn),
  (0x1AFFD, .lm), (0x1AFFF, .cn), (0x1B000, .lo), (0x1B123, .cn), (0x1B132, .lo), (0x1B133, .cn),
  (0x1B150, .lo), (0x1B153, .cn), (0x1B155, .lo), (0x1B156, .cn), (0x1B164, .lo), (0x1B168, .cn),
  (0x1B170, .lo), (0x1B2FC, .cn), (0x1BC00, .lo), (0x1BC6B, .cn), (0x1BC70, .lo), (0x1BC7D, .cn),
  (0x1BC80, .lo), (0x1BC89, .cn), (0x1BC90, .lo), (0x1BC9A, .cn), (0x1BC9C, .so), (0x1BC9D, .mn),
  (0x1BC9F, .po), (0x1BCA0, .cf), (0x1BCA4, .cn), (0x1CC00, .so), (0x1CCF0, .nd), (0x1CCFA, .so),
  (0x1CCFD, .cn), (0x1CD00, .so), (0x1CEB4, .cn), (0x1CEBA, .so), (0x1CED1, .cn), (0x1CEE0, .so),
  (0x1CEF0, .sm), (0x1CEF1, .cn), (0x1CF00, .mn), (0x1CF2E, .cn), (0x1CF30, .mn), (0x1CF47, .cn),
  (0x1CF50, .so), (0x1CFC4, .cn), (0x1D000, .so), (0x1D0F6, .cn), (0x1D100, .so), (0x1D127, .cn),
  (0x1D129, .so), (0x1D165, .mc), (0x1D167, .mn), (0x1D16A, .so), (0x1D16D, .mc), (0x1D173, .cf),
  (0x1D17B, .mn), (0x1D183, .so), (0x1D185, .mn), (0x1D18C, .so), (0x1D1AA, .mn), (0x1D1AE, .so),
  (0x1D1EB, .cn), (0x1D200, .so), (0x1D242, .mn), (0x1D245, .so), (0x1D246, .cn), (0x1D2C0, .no),
  (0x1D2D4, .cn), (0x1D2E0, .no), (0x1D2F4, .cn), (0x1D300, .so), (0x1D357, .cn), (0x1D360, .no),
  (0x1D379, .cn), (0x1D400, .lu), (0x1D41A, .ll), (0x1D434, .lu), (0x1D44E, .ll), (0x1D455, .cn),
  (0x1D456, .ll), (0x1D468, .lu), (0x1D482, .ll), (0x1D49C, .lu), (0x1D49D, .cn), (0x1D49E, .lu),
  (0x1D4A0, .cn), (0x1D4A2, .lu), (0x1D4A3, .cn), (0x1D4A5, .lu), (0x1D4A7, .cn), (0x1D4A9, .lu),
  (0x1D4AD, .cn), (0x1D4AE, .lu), (0x1D4B6, .ll), (0x1D4BA, .cn), (0x1D4BB, .ll), (0x1D4BC, .cn),
  (0x1D4BD, .ll), (0x1D4C4, .cn), (0x1D4C5, .ll), (0x1D4D0, .lu), (0x1D4EA, .ll), (0x1D504, .lu),
  (0x1D506, .cn), (0x1D507, .lu), (0x1D50B, .cn), (0x1D50D, .lu), (0x1D515, .cn), (0x1D516, .lu),
  (0x1D51D, .cn), (0x1D51E, .ll), (0x1D538, .lu), (0x1D53A, .cn), (0x1D53B, .lu), (0x1D53F, .cn),
  (0x1D540, .lu), (0x1D545, .cn), (0x1D546, .lu), (0x1D547, .cn), (0x1D54A, .lu), (0x1D551, .cn),
  (0x1D552, .ll), (0x1D56C, .lu), (0x1D586, .ll), (0x1D5A0, .lu), (0x1D5BA, .ll), (0x1D5D4, .lu),
  (0x1D5EE, .ll), (0x1D608, .lu), (0x1D622, .ll), (0x1D63C, .lu), (0x1D656, .ll), (0x1D670, .lu),
  (0x1D68A, .ll), (0x1D6A6, .cn), (0x1D6A8, .lu), (0x1D6C1, .sm), (0x1D6C2, .ll), (0x1D6DB, .sm),
  (0x1D6DC, .ll), (0x1D6E2, .lu), (0x1D6FB, .sm), (0x1D6FC, .ll), (0x1D715, .sm), (0x1D716, .ll),
  (0x1D71C, .lu), (0x1D735, .sm), (0x1D736, .ll), (0x1D74F, .sm), (0x1D750, .ll), (0x1D756, .lu),
  (0x1D76F, .sm), (0x1D770, .ll), (0x1D789, .sm), (0x1D78A, .ll), (0x1D790, .lu), (0x1D7A9, .sm),
  (0x1D7AA, .ll), (0x1D7C3, .sm), (0x1D7C4, .ll), (0x1D7CA, .lu), (0x1D7CB, .ll), (0x1D7CC, .cn),
  (0x1D7CE, .nd), (0x1D800, .so), (0x1DA00, .mn), (0x1DA37, .so), (0x1DA3B, .mn), (0x1DA6D, .so),
  (0x1DA75, .mn), (0x1DA76, .so), (0x1DA84, .mn), (0x1DA85, .so), (0x1DA87, .po), (0x1DA8C, .cn),
  (0x1DA9B, .mn), (0x1DAA0, .cn), (0x1DAA1, .mn), (0x1DAB0, .cn), (0x1DF00, .ll), (0x1DF0A, .lo),
  (0x1DF0B, .ll), (0x1DF1F, .cn), (0x1DF25, .ll), (0x1DF2B, .cn), (0x1E000, .mn), (0x1E007, .cn),
  (0x1E008, .mn), (0x1E019, .cn), (0x1E01B, .mn), (0x1E022, .cn), (0x1E023, .mn), (0x1E025, .cn),
  (0x1E026, .mn), (0x1E02B, .cn), (0x1E030, .lm), (0x1E06E, .cn), (0x1E08F, .mn), (0x1E090, .cn),
  (0x1E100, .lo), (0x1E12D, .cn), (0x1E130, .mn), (0x1E137, .lm), (0x1E13E, .cn), (0x1E140, .nd),
  (0x1E14A, .cn), (0x1E14E, .lo), (0x1E14F, .so), (0x1E150, .cn), (0x1E290, .lo), (0x1E2AE, .mn),
  (0x1E2AF, .cn), (0x1E2C0, .lo), (0x1E2EC, .mn), (0x1E2F0, .nd), (0x1E2FA, .cn), (0x1E2FF, .sc),
  (0x1E300, .cn), (0x1E4D0, .lo), (0x1E4EB, .lm), (0x1E4EC, .mn), (0x1E4F0, .nd), (0x1E4FA, .cn),
  (0x1E5D0, .lo), (0x1E5EE, .mn), (0x1E5F0, .lo), (0x1E5F1, .nd), (0x1E5FB, .cn), (0x1E5FF, .po),
  (0x1E600, .cn), (0x1E6C0, .lo), (0x1E6DF, .cn), (0x1E6E0, .lo), (0x1E6E3, .mn), (0x1E6E4, .lo),
  (0x1E6E6, .mn), (0x1E6E7, .lo), (0x1E6EE, .mn), (0x1E6F0, .lo), (0x1E6F5, .mn), (0x1E6F6, .cn),
  (0x1E6FE, .lo), (0x1E6FF, .lm), (0x1E700, .cn), (0x1E7E0, .lo), (0x1E7E7, .cn), (0x1E7E8, .lo),
  (0x1E7EC, .cn), (0x1E7ED, .lo), (0x1E7EF, .cn), (0x1E7F0, .lo), (0x1E7FF, .cn), (0x1E800, .lo),
  (0x1E8C5, .cn), (0x1E8C7, .no), (0x1E8D0, .mn), (0x1E8D7, .cn), (0x1E900, .lu), (0x1E922, .ll),
  (0x1E944, .mn), (0x1E94B, .lm), (0x1E94C, .cn), (0x1E950, .nd), (0x1E95A, .cn), (0x1E95E, .po),
  (0x1E960, .cn), (0x1EC71, .no), (0x1ECAC, .so), (0x1ECAD, .no), (0x1ECB0, .sc), (0x1ECB1, .no),
  (0x1ECB5, .cn), (0x1ED01, .no), (0x1ED2E, .so), (0x1ED2F, .no), (0x1ED3E, .cn), (0x1EE00, .lo),
  (0x1EE04, .cn), (0x1EE05, .lo), (0x1EE20, .cn), (0x1EE21, .lo), (0x1EE23, .cn), (0x1EE24, .lo),
  (0x1EE25, .cn), (0x1EE27, .lo), (0x1EE28, .cn), (0x1EE29, .lo), (0x1EE33, .cn), (0x1EE34, .lo),
  (0x1EE38, .cn), (0x1EE39, .lo), (0x1EE3A, .cn), (0x1EE3B, .lo), (0x1EE3C, .cn), (0x1EE42, .lo),
  (0x1EE43, .cn), (0x1EE47, .lo), (0x1EE48, .cn), (0x1EE49, .lo), (0x1EE4A, .cn), (0x1EE4B, .lo),
  (0x1EE4C, .cn), (0x1EE4D, .lo), (0x1EE50, .cn), (0x1EE51, .lo), (0x1EE53, .cn), (0x1EE54, .lo),
  (0x1EE55, .cn), (0x1EE57, .lo), (0x1EE58, .cn), (0x1EE59, .lo), (0x1EE5A, .cn), (0x1EE5B, .lo),
  (0x1EE5C, .cn), (0x1EE5D, .lo), (0x1EE5E, .cn), (0x1EE5F, .lo), (0x1EE60, .cn), (0x1EE61, .lo),
  (0x1EE63, .cn), (0x1EE64, .lo), (0x1EE65, .cn), (0x1EE67, .lo), (0x1EE6B, .cn), (0x1EE6C, .lo),
  (0x1EE73, .cn), (0x1EE74, .lo), (0x1EE78, .cn), (0x1EE79, .lo), (0x1EE7D, .cn), (0x1EE7E, .lo),
  (0x1EE7F, .cn), (0x1EE80, .lo), (0x1EE8A, .cn), (0x1EE8B, .lo), (0x1EE9C, .cn), (0x1EEA1, .lo),
  (0x1EEA4, .cn), (0x1EEA5, .lo), (0x1EEAA, .cn), (0x1EEAB, .lo), (0x1EEBC, .cn), (0x1EEF0, .sm),
  (0x1EEF2, .cn), (0x1F000, .so), (0x1F02C, .cn), (0x1F030, .so), (0x1F094, .cn), (0x1F0A0, .so),
  (0x1F0AF, .cn), (0x1F0B1, .so), (0x1F0C0, .cn), (0x1F0C1, .so), (0x1F0D0, .cn), (0x1F0D1, .so),
  (0x1F0F6, .cn), (0x1F100, .no), (0x1F10D, .so), (0x1F1AE, .cn), (0x1F1E6, .so), (0x1F203, .cn),
  (0x1F210, .so), (0x1F23C, .cn), (0x1F240, .so), (0x1F249, .cn), (0x1F250, .so), (0x1F252, .cn),
  (0x1F260, .so), (0x1F266, .cn), (0x1F300, .so), (0x1F3FB, .sk), (0x1F400, .so), (0x1F6D9, .cn),
  (0x1F6DC, .so), (0x1F6ED, .cn), (0x1F6F0, .so), (0x1F6FD, .cn), (0x1F700, .so), (0x1F7DA, .cn),
  (0x1F7E0, .so), (0x1F7EC, .cn), (0x1F7F0, .so), (0x1F7F1, .cn), (0x1F800, .so), (0x1F80C, .cn),
  (0x1F810, .so), (0x1F848, .cn), (0x1F850, .so), (0x1F85A, .cn), (0x1F860, .so), (0x1F888, .cn),
  (0x1F890, .so), (0x1F8AE, .cn), (0x1F8B0, .so), (0x1F8BC, .cn), (0x1F8C0, .so), (0x1F8C2, .cn),
  (0x1F8D0, .sm), (0x1F8D9, .cn), (0x1F900, .so), (0x1FA58, .cn), (0x1FA60, .so), (0x1FA6E, .cn),
  (0x1FA70, .so), (0x1FA7D, .cn), (0x1FA80, .so), (0x1FA8B, .cn), (0x1FA8E, .so), (0x1FAC7, .cn),
  (0x1FAC8, .so), (0x1FAC9, .cn), (0x1FACD, .so), (0x1FADD, .cn), (0x1FADF, .so), (0x1FAEB, .cn),
  (0x1FAEF, .so), (0x1FAF9, .cn), (0x1FB00, .so), (0x1FB93, .cn), (0x1FB94, .so), (0x1FBF0, .nd),
  (0x1FBFA, .so), (0x1FBFB, .cn), (0x20000, .lo), (0x2A6E0, .cn), (0x2A700, .lo), (0x2B81E, .cn),
  (0x2B820, .lo), (0x2CEAE, .cn), (0x2CEB0, .lo), (0x2EBE1, .cn), (0x2EBF0, .lo), (0x2EE5E, .cn),
  (0x2F800, .lo), (0x2FA1E, .cn), (0x30000, .lo), (0x3134B, .cn), (0x31350, .lo), (0x3347A, .cn),
  (0xE0001, .cf), (0xE0002, .cn), (0xE0020, .cf), (0xE0080, .cn), (0xE0100, .mn), (0xE01F0, .cn),
  (0xF0000, .co), (0xFFFFE, .cn), (0x100000, .co), (0x10FFFE, .cn)]

/-- The category of the last run that starts at or before a code point. -/
def lookUp (n : Nat) : List (Nat × Category) → Category → Category
  | [], found => found
  | (first, next) :: more, found => if n < first then found else lookUp n more next

end Category

def category (c : Char) : Category := Category.lookUp c.toNat Category.runs .cn

end SchedLatency.Text
