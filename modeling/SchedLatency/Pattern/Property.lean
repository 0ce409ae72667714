import SchedLatency.Pattern.Fault
import SchedLatency.Pattern.Unicode.Age
import SchedLatency.Pattern.Unicode.Break

/-! Properties of characters by name. Patterns name what a character has or has not, a general
category, or a script; or else a property and one of its values. -/
namespace SchedLatency.Pattern.Property

open Text (Category)
open Unicode

/-- A name without regard to case, blanks, hyphens and low lines, and without `is` in front. What is
no ASCII is left out. The name `isc` keeps its `is`, as it stands for a property of its own. -/
def plainName (name : List Char) : String :=
  let plain := fun cs : List Char =>
    String.ofList ((cs.filter fun c => c.toNat < 0x80 && !" _-".toList.contains c).map Char.toLower)
  match name with
  | a :: b :: rest =>
    if a.toLower = 'i' ∧ b.toLower = 's' then
      if plain rest = "c" then "isc" else plain rest
    else plain name
  | _ => plain name

def plain : List (List String × CharSet) := [
  (["alphabetic", "alpha"], alphabetic), (["asciihexdigit", "ahex"], asciiHexDigit),
  (["bidicontrol", "bidic"], bidiControl), (["bidimirrored", "bidim"], mirrored),
  (["caseignorable", "ci"], caseIgnorable), (["cased"], cased),
  (["changeswhencasefolded", "cwcf"], changesFolded),
  (["changeswhencasemapped", "cwcm"], changesCase),
  (["changeswhenlowercased", "cwl"], changesLowercased),
  (["changeswhentitlecased", "cwt"], changesTitlecased),
  (["changeswhenuppercased", "cwu"], changesUppercased),
  (["dash"], dash), (["defaultignorablecodepoint", "di"], ignorable),
  (["deprecated", "dep"], deprecated), (["diacritic", "dia"], diacritic), (["emoji"], emoji),
  (["emojicomponent", "ecomp"], emojiComponent),
  (["emojimodifier", "emod"], emojiModifier), (["emojimodifierbase", "ebase"], emojiModifierBase),
  (["emojipresentation", "epres"], emojiPresentation),
  (["extendedpictographic", "extpict"], pictographic), (["extender", "ext"], extender),
  (["graphemebase", "grbase"], base), (["graphemeextend", "grext"], combining),
  (["graphemelink", "grlink"], virama), (["hexdigit", "hex"], hexDigit), (["hyphen"], hyphen),
  (["idcompatmathcontinue"], mathNamePart), (["idcompatmathstart"], mathNameStart),
  (["idcontinue", "idc"], namePart), (["idstart", "ids"], nameStart),
  (["idsbinaryoperator", "idsb"], binaryDescription),
  (["idstrinaryoperator", "idst"], trinaryDescription),
  (["idsunaryoperator", "idsu"], unaryDescription), (["ideographic", "ideo"], ideographic),
  (["joincontrol", "joinc"], joinControl), (["logicalorderexception", "loe"], writtenAhead),
  (["lowercase", "lower"], lowercase), (["math"], math),
  (["modifiercombiningmark", "mcm"], firstMark), (["noncharactercodepoint", "nchar"], noncharacter),
  (["otheralphabetic", "oalpha"], otherAlphabetic),
  (["otherdefaultignorablecodepoint", "odi"], otherIgnorable),
  (["othergraphemeextend", "ogrext"], otherCombining), (["otheridcontinue", "oidc"], otherNamePart),
  (["otheridstart", "oids"], otherNameStart), (["otherlowercase", "olower"], otherLowercase),
  (["othermath", "omath"], otherMath), (["otheruppercase", "oupper"], otherUppercase),
  (["patternsyntax", "patsyn"], patternSign), (["patternwhitespace", "patws"], patternSpace),
  (["prependedconcatenationmark", "pcm"], enclosesNumber),
  (["quotationmark", "qmark"], quotationMark), (["radical"], radical),
  (["regionalindicator", "ri"], regionalIndicator), (["sentenceterminal", "sterm"], endsSentence),
  (["softdotted", "sd"], softDotted), (["terminalpunctuation", "term"], endsClause),
  (["unifiedideograph", "uideo"], unifiedIdeograph), (["uppercase", "upper"], uppercase),
  (["variationselector", "vs"], variationSelector), (["whitespace", "wspace", "space"], whiteSpace),
  (["xidcontinue", "xidc"], stableNamePart), (["xidstart", "xids"], stableNameStart)]

/-- Properties that have a name but that patterns cannot ask for. -/
def unsupported : List String := [
  "bc", "bidiclass", "bidimirroringglyph", "bidipairedbracket", "bidipairedbrackettype", "blk",
  "block", "bmg", "bpb", "bpt", "canonicalcombiningclass", "casefolding", "ccc", "ce", "cf",
  "changeswhennfkccasefolded", "cjkaccountingnumeric", "cjkcompatibilityvariant", "cjkiicore",
  "cjkirggsource", "cjkirghsource", "cjkirgjsource", "cjkirgkpsource", "cjkirgksource",
  "cjkirgmsource", "cjkirgssource", "cjkirgtsource", "cjkirguksource", "cjkirgusource",
  "cjkirgvsource", "cjkothernumeric", "cjkprimarynumeric", "cjkrsunicode", "compex",
  "compositionexclusion", "cwkcf", "decompositionmapping", "decompositiontype", "dm", "dt", "ea",
  "eastasianwidth", "equideo", "equivalentunifiedideograph", "expandsonnfc", "expandsonnfd",
  "expandsonnfkc", "expandsonnfkd", "fcnfkc", "fcnfkcclosure", "fullcompositionexclusion",
  "hangulsyllabletype", "hst", "incb", "indicconjunctbreak", "indicpositionalcategory",
  "indicsyllabiccategory", "inpc", "insc", "isc", "isocomment", "jamoshortname", "jg",
  "joininggroup", "joiningtype", "jsn", "jt", "kaccountingnumeric", "kcompatibilityvariant",
  "kehcat", "kehdesc", "kehhg", "kehifao", "kehjsesh", "kehnomirror", "kehnorotate", "kiicore",
  "kirggsource", "kirghsource", "kirgjsource", "kirgkpsource", "kirgksource", "kirgmsource",
  "kirgssource", "kirgtsource", "kirguksource", "kirgusource", "kirgvsource", "kothernumeric",
  "kprimarynumeric", "krsunicode", "lb", "lc", "linebreak", "lowercasemapping", "na", "na1", "name",
  "namealias", "nfcqc", "nfcquickcheck", "nfdqc", "nfdquickcheck", "nfkccasefold", "nfkccf",
  "nfkcqc", "nfkcquickcheck", "nfkcscf", "nfkcsimplecasefold", "nfkdqc", "nfkdquickcheck", "nt",
  "numerictype", "numericvalue", "nv", "scf", "sfc", "simplecasefolding", "simplelowercasemapping",
  "simpletitlecasemapping", "simpleuppercasemapping", "slc", "stc", "suc", "tc", "titlecasemapping",
  "uc", "unicode1name", "unicoderadicalstroke", "uppercasemapping", "urs", "verticalorientation",
  "vo", "xonfc", "xonfd", "xonfkc", "xonfkd"]

def categories : List (List String × CharSet) := [
  (["letter", "l"], ofCategories letters), (["casedletter", "lc"], ofCategories casedLetters),
  (["uppercaseletter", "lu"], ofCategories [.lu]), (["lowercaseletter", "ll"], ofCategories [.ll]),
  (["titlecaseletter", "lt"], ofCategories [.lt]), (["modifierletter", "lm"], ofCategories [.lm]),
  (["otherletter", "lo"], ofCategories [.lo]),
  (["mark", "combiningmark", "m"], ofCategories marks),
  (["nonspacingmark", "mn"], ofCategories [.mn]), (["spacingmark", "mc"], ofCategories [.mc]),
  (["enclosingmark", "me"], ofCategories [.me]), (["number", "n"], ofCategories numbers),
  (["decimalnumber", "digit", "nd"], ofCategories [.nd]),
  (["letternumber", "nl"], ofCategories [.nl]), (["othernumber", "no"], ofCategories [.no]),
  (["punctuation", "punct", "p"], ofCategories punctuation),
  (["connectorpunctuation", "pc"], ofCategories [.pc]),
  (["dashpunctuation", "pd"], ofCategories [.pd]), (["openpunctuation", "ps"], ofCategories [.ps]),
  (["closepunctuation", "pe"], ofCategories [.pe]),
  (["initialpunctuation", "pi"], ofCategories [.pi]),
  (["finalpunctuation", "pf"], ofCategories [.pf]),
  (["otherpunctuation", "po"], ofCategories [.po]), (["symbol", "s"], ofCategories symbols),
  (["mathsymbol", "sm"], ofCategories [.sm]), (["currencysymbol", "sc"], ofCategories [.sc]),
  (["modifiersymbol", "sk"], ofCategories [.sk]), (["othersymbol", "so"], ofCategories [.so]),
  (["separator", "z"], ofCategories separators), (["spaceseparator", "zs"], ofCategories [.zs]),
  (["lineseparator", "zl"], ofCategories [.zl]),
  (["paragraphseparator", "zp"], ofCategories [.zp]), (["other", "c"], ofCategories others),
  (["control", "cntrl", "cc"], ofCategories [.cc]), (["format", "cf"], ofCategories [.cf]),
  (["privateuse", "co"], ofCategories [.co]), (["unassigned", "cn"], ofCategories [.cn])]

def surrogateNames : List String := ["surrogate", "cs"]

/-- The characters of a general category, or of one of three groups that are named like them. -/
def category? (name : String) : Option CharSet :=
  match name with
  | "any" => some .all
  | "assigned" => some (ofCategories [.cn]).others
  | "ascii" => some .ascii
  | _ => (categories.find? (·.1.contains name)).map Prod.snd

/-- Properties of several values, and what a value stands for. -/
def valued : List (List String × (String → Option CharSet)) := [
  (["generalcategory", "gc"], category?), (["script", "sc"], Script.members?),
  (["scriptextensions", "scx"], Script.writers?), (["age"], upTo?),
  (["graphemeclusterbreak", "gcb"], kind? cellKinds), (["wordbreak", "wb"], kind? wordKinds),
  (["sentencebreak", "sb"], kind? sentenceKinds)]

def isName (name : String) : Bool :=
  plain.any (·.1.contains name) || valued.any (·.1.contains name) || unsupported.contains name

/-- Names of properties that stand for general categories when they are alone. -/
def sharedNames : List String := ["cf", "sc", "lc"]

/-- A property that a character has or has not, or a general category or a script. -/
def ofName (name : String) : Except Cause CharSet :=
  match plain.find? (·.1.contains name) with
  | some found => .ok found.2
  | none =>
    if isName name && !sharedNames.contains name then .error .propertyUnknown
    else
      match category? name <|> Script.members? name with
      | some set => .ok set
      | none =>
        if (surrogateNames ++ Script.vacant).contains name then .error .propertyValueUnknown
        else .error .propertyUnknown

def ofValue (name value : String) : Except Cause CharSet :=
  match (valued.find? (·.1.contains name)).bind fun property => property.2 value with
  | some set => .ok set
  | none => .error (if isName name then .propertyValueUnknown else .propertyUnknown)

end SchedLatency.Pattern.Property
