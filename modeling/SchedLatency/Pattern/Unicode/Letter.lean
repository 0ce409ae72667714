import SchedLatency.Pattern.CharSet
import SchedLatency.Text.Category
import SchedLatency.Text.Alphabetic

/-! General categories as patterns know them, and what is told by them: lowercase and uppercase, what
a change of case changes, letters and ideographs, and what names and words are made of. Patterns know
one edition of Unicode less than messages do: what the newest edition added is unassigned to them. -/
namespace SchedLatency.Pattern.Unicode

open Text (Category)

def newest : CharSet := .listed
  "88F C5C CDC 1ACF-1ADD 1AE0-1AEB 20C1 2B96 A7CE-A7CF A7D2 A7D4 A7F1 FBC3-FBD2 FD90-FD91 FDC8-FDCE
   10940-10959 10EC5-10EC7 10ED0-10ED8 10EFA-10EFB 11B60-11B67 11DB0-11DDB 11DE0-11DE9 16EA0-16EB8
   16EBB-16ED3 16FF2-16FF6 187F8-187FF 18D09-18D1E 18D80-18DF2 1CCFA-1CCFC 1CEBA-1CED0 1CEE0-1CEF0
   1E6C0-1E6DE 1E6E0-1E6F5 1E6FE-1E6FF 1F6D8 1F777-1F77A 1F8D0-1F8D8 1FA54-1FA57 1FA8A 1FA8E 1FAC8
   1FACD 1FAEA 1FAEF 1FBFA 2B73A-2B73F 2CEA2-2CEAD 323B0-33479"

/-- A letter that the newest edition made one without case. -/
def pharyngealFricative : CharSet := .points 0x295 0x295

def newestOf (among : List Category) : CharSet :=
  .unionAll ((Category.runs.zip (Category.runs.tail.map Prod.fst ++ [0x110000])).filterMap
    fun ((start, category), next) =>
      if among.contains category then some (.points start (next - 1)) else none)

def ofCategories (among : List Category) : CharSet :=
  let known := if among.contains .cn then (newestOf among).union newest
    else (newestOf among).without newest
  if among.contains .ll then known.union pharyngealFricative else known.without pharyngealFricative

def casedLetters : List Category := [.lu, .ll, .lt]
def letters : List Category := [.lu, .ll, .lt, .lm, .lo]
def marks : List Category := [.mn, .mc, .me]
def numbers : List Category := [.nd, .nl, .no]
def punctuation : List Category := [.pc, .pd, .ps, .pe, .pi, .pf, .po]
def symbols : List Category := [.sm, .sc, .sk, .so]
def separators : List Category := [.zs, .zl, .zp]
/-- With surrogates, so that the set passes over them. -/
def others : List Category := [.cc, .cf, .cn, .co, .cs]

def digit : CharSet := ofCategories [.nd]

def otherLowercase : CharSet := .listed
  "AA BA 2B0-2B8 2C0-2C1 2E0-2E4 345 37A 10FC 1D2C-1D6A 1D78 1D9B-1DBF 2071 207F 2090-209C
   2170-217F 24D0-24E9 2C7C-2C7D A69C-A69D A770 A7F2-A7F4 A7F8-A7F9 AB5C-AB5F AB69 10780
   10783-10785 10787-107B0 107B2-107BA 1E030-1E06D"

def otherUppercase : CharSet := .listed
  "2160-216F 24B6-24CF 1F130-1F149 1F150-1F169 1F170-1F189"

def lowercase : CharSet := (ofCategories [.ll]).union otherLowercase
def uppercase : CharSet := (ofCategories [.lu]).union otherUppercase
def titlecase : CharSet := ofCategories [.lt]
def cased : CharSet := (lowercase.union uppercase).union titlecase

/-- Uppercase characters that stand for themselves in lowercase too. -/
def loneUppercase : CharSet := .listed
  "3D2-3D4 2102 2107 210B-210D 2110-2112 2115 2119-211D 2124 2128 212C-212D 2130-2131 2133
   213E-213F 2145 1D400-1D419 1D434-1D44D 1D468-1D481 1D49C 1D49E-1D49F 1D4A2 1D4A5-1D4A6
   1D4A9-1D4AC 1D4AE-1D4B5 1D4D0-1D4E9 1D504-1D505 1D507-1D50A 1D50D-1D514 1D516-1D51C 1D538-1D539
   1D53B-1D53E 1D540-1D544 1D546 1D54A-1D550 1D56C-1D585 1D5A0-1D5B9 1D5D4-1D5ED 1D608-1D621
   1D63C-1D655 1D670-1D689 1D6A8-1D6C0 1D6E2-1D6FA 1D71C-1D734 1D756-1D76E 1D790-1D7A8 1D7CA
   1F130-1F149 1F150-1F169 1F170-1F189"

/-- Lowercase characters that stand for themselves in uppercase too. -/
def loneLowercase : CharSet := .listed
  "AA BA 138 18D 1AA-1AB 1BA 1BE 221 234-239 255 258 25A 25D-25F 262 267 26D-26E 270 273-274
   276-27C 27E-27F 281 284-286 28D-291 293 295-29C 29F-2B8 2C0-2C1 2E0-2E4 37A 3FC 560 588 10FC
   1D00-1D78 1D7A-1D7C 1D7E-1D8D 1D8F-1DBF 1E9C-1E9D 1E9F 2071 207F 2090-209C 210A 210E-210F 2113
   212F 2134 2139 213C-213D 2146-2149 2C71 2C74 2C77-2C7D 2CE4 A69C-A69D A730-A731 A770-A778 A78E
   A795 A7AF A7D3 A7D5 A7F2-A7F4 A7F8-A7FA AB30-AB52 AB54-AB5A AB5C-AB69 10780 10783-10785
   10787-107B0 107B2-107BA 1D41A-1D433 1D44E-1D454 1D456-1D467 1D482-1D49B 1D4B6-1D4B9 1D4BB
   1D4BD-1D4C3 1D4C5-1D4CF 1D4EA-1D503 1D51E-1D537 1D552-1D56B 1D586-1D59F 1D5BA-1D5D3 1D5EE-1D607
   1D622-1D63B 1D656-1D66F 1D68A-1D6A5 1D6C2-1D6DA 1D6DC-1D6E1 1D6FC-1D714 1D716-1D71B 1D736-1D74E
   1D750-1D755 1D770-1D788 1D78A-1D78F 1D7AA-1D7C2 1D7C4-1D7C9 1D7CB 1DF00-1DF09 1DF0B-1DF1E
   1DF25-1DF2A 1E030-1E06D"

def changesLowercased : CharSet := (uppercase.union titlecase).without loneUppercase
def changesUppercased : CharSet := (lowercase.union titlecase).without loneLowercase

/-- In titlecase, characters of two letters change that are all uppercase. Characters that have a
titlecase form of their own, or are it, do not change. -/
def changesTitlecased : CharSet :=
  (changesUppercased.union (.listed "1C4 1C7 1CA 1F1")).without
    (.listed "1C5 1C8 1CB 1F2 10D0-10FA 10FD-10FF 1F88-1F8F 1F98-1F9F 1FA8-1FAF 1FBC 1FCC 1FFC")

/-- Characters that are lowercase already and fold to others. -/
def foldedApart : CharSet := .listed
  "B5 DF 149 17F 345 3C2 3D0-3D1 3D5-3D6 3F0-3F1 3F5 587 13F8-13FD 1C80-1C88 1E9A-1E9B 1F80-1F87
   1F90-1F97 1FA0-1FA7 1FB2-1FB4 1FB7 1FC2-1FC4 1FC7 1FF2-1FF4 1FF7 AB70-ABBF FB00-FB06 FB13-FB17"

/-- Cherokee letters fold to uppercase. -/
def cherokee : CharSet := .listed "13A0-13F5"

def changesFolded : CharSet :=
  (changesLowercased.union foldedApart).without cherokee

def changesCase : CharSet := .unionAll [changesLowercased, changesUppercased, changesTitlecased]

def otherAlphabetic : CharSet :=
  (CharSet.unionAll (Text.alphabeticRanges.map fun r => .points r.1 r.2)).without newest

def alphabetic : CharSet := (ofCategories (.nl :: letters)).union otherAlphabetic

def joinControl : CharSet := .listed "200C-200D"

/-- What words are written with: digits, connecting punctuation and joiners included. -/
def word : CharSet :=
  .unionAll [alphabetic, ofCategories (.nd :: .pc :: marks), joinControl]

def ideographic : CharSet := .listed
  "3006-3007 3021-3029 3038-303A 3400-4DBF 4E00-9FFF F900-FA6D FA70-FAD9 16FE4 17000-187F7
   18800-18CD5 18CFF-18D08 1B170-1B2FB 20000-2A6DF 2A700-2B739 2B740-2B81D 2B820-2CEA1 2CEB0-2EBE0
   2EBF0-2EE5D 2F800-2FA1D 30000-3134A 31350-323AF"

def unifiedIdeograph : CharSet := .listed
  "3400-4DBF 4E00-9FFF FA0E-FA0F FA11 FA13-FA14 FA1F FA21 FA23-FA24 FA27-FA29 20000-2A6DF
   2A700-2B739 2B740-2B81D 2B820-2CEA1 2CEB0-2EBE0 2EBF0-2EE5D 30000-3134A 31350-323AF"

def radical : CharSet := .listed "2E80-2E99 2E9B-2EF3 2F00-2FD5"

/-- Signs that tell how two ideographs make up one. -/
def binaryDescription : CharSet := .listed "2FF0-2FF1 2FF4-2FFD 31EF"
def trinaryDescription : CharSet := .listed "2FF2-2FF3"
def unaryDescription : CharSet := .listed "2FFE-2FFF"

/-- Vowels that are written before the consonant that they are spoken after. -/
def writtenAhead : CharSet := .listed "E40-E44 EC0-EC4 19B5-19B7 19BA AAB5-AAB6 AAB9 AABB-AABC"

/-! Names in programs. -/

def patternSpace : CharSet := .listed "9-D 20 85 200E-200F 2028-2029"

def patternSign : CharSet := .listed
  "21-2F 3A-40 5B-5E 60 7B-7E A1-A7 A9 AB-AC AE B0-B1 B6 BB BF D7 F7 2010-2027 2030-203E 2041-2053
   2055-205E 2190-245F 2500-2775 2794-2BFF 2E00-2E7F 3001-3003 3008-3020 3030 FD3E-FD3F FE45-FE46"

def otherNameStart : CharSet := .listed "1885-1886 2118 212E 309B-309C"
def otherNamePart : CharSet := .listed "B7 387 1369-1371 19DA 200C-200D 30FB FF65"

def nameStart : CharSet :=
  (((ofCategories (.nl :: letters)).union otherNameStart).without patternSign).without patternSpace

def namePart : CharSet :=
  ((CharSet.unionAll [nameStart, ofCategories [.mn, .mc, .nd, .pc], otherNamePart]).without
    patternSign).without patternSpace

/-- Characters that fall into parts with a blank or a mark in front. -/
def unstablePart : CharSet := .listed "37A 309B-309C FC5E-FC63 FDFA-FDFB FE70-FE7E/2"

/-- Characters that no name starts with once it is taken apart. -/
def unstableStart : CharSet := unstablePart.union (.listed "E33 EB3 FF9E-FF9F")

def stableNameStart : CharSet := nameStart.without unstableStart
def stableNamePart : CharSet := namePart.without unstablePart

def mathNameStart : CharSet := .listed
  "2202 2207 221E 1D6C1 1D6DB 1D6FB 1D715 1D735 1D74F 1D76F 1D789 1D7A9 1D7C3"

/-- Digits above and below the line go on in names of formulas. -/
def mathNamePart : CharSet := mathNameStart.union (.listed "B2-B3 B9 2070 2074-207E 2080-208E")

end SchedLatency.Pattern.Unicode
