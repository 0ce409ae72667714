import SchedLatency.Pattern.CharSet
import SchedLatency.Pattern.Unicode.Script
import SchedLatency.Pattern.Unicode.Sign

/-! Pictures and what they are made up of, and kinds of characters by how text falls into cells, words
and sentences. Each kind has a long and a short name. -/
namespace SchedLatency.Pattern.Unicode

def regionalIndicator : CharSet := .listed "1F1E6-1F1FF"

def emoji : CharSet := .listed
  "23 2A 30-39 A9 AE 203C 2049 2122 2139 2194-2199 21A9-21AA 231A-231B 2328 23CF 23E9-23F3
   23F8-23FA 24C2 25AA-25AB 25B6 25C0 25FB-25FE 2600-2604 260E 2611 2614-2615 2618 261D 2620
   2622-2623 2626 262A 262E-262F 2638-263A 2640 2642 2648-2653 265F-2660 2663 2665-2666 2668 267B
   267E-267F 2692-2697 2699 269B-269C 26A0-26A1 26A7 26AA-26AB 26B0-26B1 26BD-26BE 26C4-26C5 26C8
   26CE-26CF 26D1 26D3-26D4 26E9-26EA 26F0-26F5 26F7-26FA 26FD 2702 2705 2708-270D 270F 2712-2716/2
   271D 2721 2728 2733-2734 2744 2747 274C 274E 2753-2755 2757 2763-2764 2795-2797 27A1 27B0 27BF
   2934-2935 2B05-2B07 2B1B-2B1C 2B50 2B55 3030 303D 3297 3299 1F004 1F0CF 1F170-1F171 1F17E-1F17F
   1F18E 1F191-1F19A 1F1E6-1F1FF 1F201-1F202 1F21A 1F22F 1F232-1F23A 1F250-1F251 1F300-1F321
   1F324-1F393 1F396-1F397 1F399-1F39B 1F39E-1F3F0 1F3F3-1F3F5 1F3F7-1F4FD 1F4FF-1F53D 1F549-1F54E
   1F550-1F567 1F56F-1F570 1F573-1F57A 1F587 1F58A-1F58D 1F590 1F595-1F596 1F5A4-1F5A5 1F5A8
   1F5B1-1F5B2 1F5BC 1F5C2-1F5C4 1F5D1-1F5D3 1F5DC-1F5DE 1F5E1 1F5E3 1F5E8 1F5EF 1F5F3 1F5FA-1F64F
   1F680-1F6C5 1F6CB-1F6D2 1F6D5-1F6D7 1F6DC-1F6E5 1F6E9 1F6EB-1F6EC 1F6F0 1F6F3-1F6FC 1F7E0-1F7EB
   1F7F0 1F90C-1F93A 1F93C-1F945 1F947-1F9FF 1FA70-1FA7C 1FA80-1FA89 1FA8F-1FAC6 1FACE-1FADC
   1FADF-1FAE9 1FAF0-1FAF8"

def emojiPresentation : CharSet := .listed
  "231A-231B 23E9-23EC 23F0 23F3 25FD-25FE 2614-2615 2648-2653 267F 2693 26A1 26AA-26AB 26BD-26BE
   26C4-26C5 26CE 26D4 26EA 26F2-26F3 26F5 26FA 26FD 2705 270A-270B 2728 274C 274E 2753-2755 2757
   2795-2797 27B0 27BF 2B1B-2B1C 2B50 2B55 1F004 1F0CF 1F18E 1F191-1F19A 1F1E6-1F1FF 1F201 1F21A
   1F22F 1F232-1F236 1F238-1F23A 1F250-1F251 1F300-1F320 1F32D-1F335 1F337-1F37C 1F37E-1F393
   1F3A0-1F3CA 1F3CF-1F3D3 1F3E0-1F3F0 1F3F4 1F3F8-1F43E 1F440 1F442-1F4FC 1F4FF-1F53D 1F54B-1F54E
   1F550-1F567 1F57A 1F595-1F596 1F5A4 1F5FB-1F64F 1F680-1F6C5 1F6CC 1F6D0-1F6D2 1F6D5-1F6D7
   1F6DC-1F6DF 1F6EB-1F6EC 1F6F4-1F6FC 1F7E0-1F7EB 1F7F0 1F90C-1F93A 1F93C-1F945 1F947-1F9FF
   1FA70-1FA7C 1FA80-1FA89 1FA8F-1FAC6 1FACE-1FADC 1FADF-1FAE9 1FAF0-1FAF8"

def emojiModifier : CharSet := .listed "1F3FB-1F3FF"

def emojiModifierBase : CharSet := .listed
  "261D 26F9 270A-270D 1F385 1F3C2-1F3C4 1F3C7 1F3CA-1F3CC 1F442-1F443 1F446-1F450 1F466-1F478
   1F47C 1F481-1F483 1F485-1F487 1F48F 1F491 1F4AA 1F574-1F575 1F57A 1F590 1F595-1F596 1F645-1F647
   1F64B-1F64F 1F6A3 1F6B4-1F6B6 1F6C0 1F6CC 1F90C 1F90F 1F918-1F91F 1F926 1F930-1F939 1F93C-1F93E
   1F977 1F9B5-1F9B6 1F9B8-1F9B9 1F9BB 1F9CD-1F9CF 1F9D1-1F9DD 1FAC3-1FAC5 1FAF0-1FAF8"

def emojiComponent : CharSet := .listed "23 2A 30-39 200D 20E3 FE0F 1F1E6-1F1FF 1F3FB-1F3FF
                                         1F9B0-1F9B3 E0020-E007F"

/-- Pictures, with the code points kept for future ones. -/
def pictographic : CharSet := .listed
  "A9 AE 203C 2049 2122 2139 2194-2199 21A9-21AA 231A-231B 2328 2388 23CF 23E9-23F3 23F8-23FA 24C2
   25AA-25AB 25B6 25C0 25FB-25FE 2600-2605 2607-2612 2614-2685 2690-2705 2708-2712 2714 2716 271D
   2721 2728 2733-2734 2744 2747 274C 274E 2753-2755 2757 2763-2767 2795-2797 27A1 27B0 27BF
   2934-2935 2B05-2B07 2B1B-2B1C 2B50 2B55 3030 303D 3297 3299 1F000-1F0FF 1F10D-1F10F 1F12F
   1F16C-1F171 1F17E-1F17F 1F18E 1F191-1F19A 1F1AD-1F1E5 1F201-1F20F 1F21A 1F22F 1F232-1F23A
   1F23C-1F23F 1F249-1F3FA 1F400-1F53D 1F546-1F64F 1F680-1F6FF 1F774-1F77F 1F7D5-1F7FF 1F80C-1F80F
   1F848-1F84F 1F85A-1F85F 1F888-1F88F 1F8AE-1F8AF 1F8BC-1F8BF 1F8C2-1F8FF 1F90C-1F93A 1F93C-1F945
   1F947-1FAFF 1FC00-1FFFD"

def carriageReturn : CharSet := .points 0x0D 0x0D
def lineFeed : CharSet := .points 0x0A 0x0A
def joiner : CharSet := .points 0x200D 0x200D
def nonJoiner : CharSet := .points 0x200C 0x200C
def fullwidthDigit : CharSet := .listed "FF10-FF19"
def spacingMark : CharSet := ofCategories [.mc]
def formatControl : CharSet := ofCategories [.cf]

/-! Hangul syllables are a consonant and a vowel, and some of them end in a consonant. -/

def syllables : CharSet := .listed "AC00-D7A3"
def openSyllables : CharSet := .unionAll (CharSet.everyOf 0xAC00 0xD788 28)
def closedSyllables : CharSet := syllables.without openSyllables
def leadingConsonants : CharSet := .listed "1100-115F A960-A97C"
def vowels : CharSet := .listed "1160-11A7 D7B0-D7C6 16D63 16D67-16D6A"
def trailingConsonants : CharSet := .listed "11A8-11FF D7CB-D7FB"

/-- Indic consonants that stand before the one that they belong to. -/
def prependedConsonant : CharSet := .listed
  "D4E 11941 11D46 11F02 111C2-111C3 1193F 113D1 11A3A 11A84-11A89"

def cellControl : CharSet :=
  (CharSet.unionAll [ofCategories [.zl, .zp, .cc, .cf],
    (ofCategories [.cn]).common ignorable]).without
      (.unionAll [carriageReturn, lineFeed, joiner, enclosesNumber, combining])

/-- Vowel signs and other marks that take a place of their own. Some of the Burmese and the Tai
scripts stand apart. -/
def cellSpacingMark : CharSet :=
  ((spacingMark.without combining).without (.listed
    "102B 102C 1038 1062-1064 1067-106D 1083 1087-108C 108F 109A-109C 1A61 1A63 1A64 AA7B AA7D
     11720 11721")).union (.listed "E33 EB3")

def cellKinds : List (List String × CharSet) := [
  (["cr"], carriageReturn), (["lf"], lineFeed), (["control", "cn"], cellControl),
  (["extend", "ex"], combining.union emojiModifier), (["zwj"], joiner),
  (["regionalindicator", "ri"], regionalIndicator),
  (["prepend", "pp"], enclosesNumber.union prependedConsonant),
  (["spacingmark", "sm"], cellSpacingMark), (["l"], leadingConsonants), (["v"], vowels),
  (["t"], trailingConsonants), (["lv"], openSyllables), (["lvt"], closedSyllables)]

/-! Words. -/

def lineEnds : CharSet := .listed "B-C 85 2028-2029"

def hebrewLetter : CharSet :=
  ((Script.members? "hebrew").getD .empty).common (ofCategories [.lo])

def katakana : CharSet :=
  ((Script.members? "katakana").getD .empty).union (.listed "3031-3035 309B-309C 30A0 30FC FF70")

def wordExtend : CharSet :=
  (CharSet.unionAll [combining, spacingMark, emojiModifier]).without joiner

/-- Letters of scripts that put no space between words. -/
def unspaced : CharSet := .listed
  "E01-E3A E40-E46 E4D E81-E82 E84 E86-E8A E8C-EA3 EA5 EA7-EB9 EBB-EBD EC0-EC4 EC6 ECD EDC-EDF
   1000-1036 1038 103B-103F 1050-108F 109A-109D 1780-17B3 17B6-17C8 17D7 17DC 1950-196D 1970-1974
   1980-19AB 19B0-19C9 1A20-1A5E 1A61-1A74 1AA7 A9E0-A9EF A9FA-A9FE AA60-AA76 AA7A-AABE AAC0 AAC2
   AADB-AADD 11700-1171A 1171D-1172A 11740-11746"

/-- Signs between letters that belong to the word. -/
def wordSign : CharSet := .listed
  "2C2-2C5 2D2-2D7 2DE-2DF 2E5-2EB 2ED 2EF-2FF 55A-55C 55E 58A 5F3 70F A708-A716 A720-A721
   A789-A78A AB5B"

def wordLetter : CharSet :=
  (alphabetic.without (.unionAll ([ideographic, katakana, unspaced, wordExtend, hebrewLetter] ++
    ["thai", "lao", "hiragana"].filterMap Script.members?))).union wordSign

/-- Signs that enclose a number, but for one that stands before a name. -/
def enclosesDigits : CharSet := enclosesNumber.without (.points 0x70F 0x70F)

def wordNumber : CharSet :=
  .unionAll [digit, fullwidthDigit, .points 0x66B 0x66B, enclosesDigits]

def wordFormat : CharSet :=
  formatControl.without (.unionAll [.listed "200B-200D", combining, enclosesNumber])

/-- Signs that are part of a word between letters, and those that are so between digits too. -/
def midLetter : CharSet := .listed "3A B7 387 55F 5F4 2027 FE13 FE55 FF1A"
def midNumLet : CharSet := .listed "2E 2018-2019 2024 FE52 FF07 FF0E"
def midNumber : CharSet := .listed
  "2C 3B 37E 589 60C-60D 66C 7F8 2044 FE10 FE14 FE50 FE54 FF0C FF1B"

def wordKinds : List (List String × CharSet) := [
  (["cr"], carriageReturn), (["lf"], lineFeed), (["newline", "nl"], lineEnds),
  (["doublequote", "dq"], .points 0x22 0x22), (["singlequote", "sq"], .points 0x27 0x27),
  (["extendnumlet", "ex"], .listed "5F 202F 203F-2040 2054 FE33-FE34 FE4D-FE4F FF3F"),
  (["extend"], wordExtend), (["format", "fo"], wordFormat),
  (["hebrewletter", "hl"], hebrewLetter), (["katakana", "ka"], katakana),
  (["aletter", "le"], wordLetter), (["midletter", "ml"], midLetter),
  (["midnumlet", "mb"], midNumLet), (["midnum", "mn"], midNumber), (["numeric", "nu"], wordNumber),
  (["regionalindicator", "ri"], regionalIndicator),
  (["wsegspace"], .listed "20 1680 2000-2006 2008-200A 205F 3000"), (["zwj"], joiner)]

/-- What a change of case leaves out of account. -/
def caseIgnorable : CharSet :=
  .unionAll [ofCategories [.mn, .me, .cf, .lm, .sk], midLetter, midNumLet, .points 0x27 0x27]

/-! Sentences. -/

def fullStop : CharSet := .listed "2E 2024 FE52 FF0E"

def sentenceEnd : CharSet := endsSentence.without fullStop

def sentenceExtend : CharSet := .unionAll [combining, spacingMark, joiner]

def sentenceLower : CharSet := (lowercase.without combining).without (.listed "10D0-10FA 10FD-10FF")
def sentenceUpper : CharSet := (titlecase.union uppercase).without (.listed "1C90-1CBA 1CBD-1CBF")

def sentenceLetter : CharSet :=
  (alphabetic.union (.points 0x5F3 0x5F3)).without
    (.unionAll [sentenceLower, sentenceUpper, sentenceExtend])

def sentenceNumber : CharSet :=
  .unionAll [digit, fullwidthDigit, .listed "66B-66C", enclosesDigits]

def sentenceFormat : CharSet :=
  formatControl.without (.unionAll [nonJoiner, joiner, combining, enclosesDigits])

/-- Quotation marks and brackets behind which a sentence may begin or end. -/
def closing : CharSet :=
  ((ofCategories [.ps, .pe, .pi, .pf]).union (.listed
    "22 27 AB BB 2018-2019 201B-201D 201F 2039-203A 275B-2760 2E00-2E0D 2E1C-2E1D 2E20-2E21
     1F676-1F678")).without
    (.unionAll [.points 0x5F3 0x5F3, fullStop, sentenceEnd])

/-- Signs behind which a sentence goes on. -/
def sentenceGoesOn : CharSet := .listed
  "2C-2D 3A-3B 37E 55D 60C-60D 7F8 1802 1808 2013-2014 3001 FE10-FE11 FE13-FE14 FE31-FE32 FE50-FE51
   FE54-FE55 FE58 FE63 FF0C-FF0D FF1A-FF1B FF64"

def sentenceKinds : List (List String × CharSet) := [
  (["cr"], carriageReturn), (["lf"], lineFeed), (["sep", "se"], .listed "85 2028-2029"),
  (["sp"], .listed "9 B-C 20 A0 1680 2000-200A 202F 205F 3000"),
  (["aterm", "at"], fullStop), (["sterm", "st"], sentenceEnd), (["close", "cl"], closing),
  (["extend", "ex"], sentenceExtend), (["format", "fo"], sentenceFormat),
  (["lower", "lo"], sentenceLower), (["upper", "up"], sentenceUpper),
  (["oletter", "le"], sentenceLetter), (["numeric", "nu"], sentenceNumber),
  (["scontinue", "sc"], sentenceGoesOn)]

def kind? (kinds : List (List String × CharSet)) (name : String) : Option CharSet :=
  (kinds.find? (·.1.contains name)).map Prod.snd

end SchedLatency.Pattern.Unicode
