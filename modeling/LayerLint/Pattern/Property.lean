-- Properties of characters that a pattern may name, and the characters below U+0080 that have
-- them, with the two letters outside of that range that a letter in it is equal to but for its
-- case. Names are in small letters without anything between their words.
import LayerLint.Text.Range

namespace LayerLint.Pattern

open Text (Range)

/-- A property: its names and its characters. -/
structure PropertyRow where
  names : List String
  members : List Range

/-! ## Tables -/

/-- General categories. -/
def categories : List PropertyRow :=
  [⟨["any"], [(0x0, 0x7F), (0x17F, 0x17F), (0x212A, 0x212A)]⟩,
   ⟨["assigned"], [(0x0, 0x7F), (0x17F, 0x17F), (0x212A, 0x212A)]⟩, ⟨["ascii"], [(0x0, 0x7F)]⟩,
   ⟨["c", "other"], [(0x0, 0x1F), (0x7F, 0x7F)]⟩,
   ⟨["cc", "control", "cntrl"], [(0x0, 0x1F), (0x7F, 0x7F)]⟩, ⟨["cf", "format"], []⟩,
   ⟨["cn", "unassigned"], []⟩, ⟨["co", "privateuse"], []⟩, ⟨["cs", "surrogate"], []⟩,
   ⟨["l", "letter"], [(0x41, 0x5A), (0x61, 0x7A), (0x17F, 0x17F), (0x212A, 0x212A)]⟩,
   ⟨["lc", "casedletter"], [(0x41, 0x5A), (0x61, 0x7A), (0x17F, 0x17F), (0x212A, 0x212A)]⟩,
   ⟨["ll", "lowercaseletter"], [(0x61, 0x7A), (0x17F, 0x17F)]⟩, ⟨["lm", "modifierletter"], []⟩,
   ⟨["lo", "otherletter"], []⟩, ⟨["lt", "titlecaseletter"], []⟩,
   ⟨["lu", "uppercaseletter"], [(0x41, 0x5A), (0x212A, 0x212A)]⟩,
   ⟨["m", "mark", "combiningmark"], []⟩, ⟨["mc", "spacingmark"], []⟩,
   ⟨["me", "enclosingmark"], []⟩, ⟨["mn", "nonspacingmark"], []⟩,
   ⟨["n", "number"], [(0x30, 0x39)]⟩, ⟨["nd", "decimalnumber", "digit"], [(0x30, 0x39)]⟩,
   ⟨["nl", "letternumber"], []⟩, ⟨["no", "othernumber"], []⟩,
   ⟨["p", "punctuation", "punct"], [(0x21, 0x23), (0x25, 0x2A), (0x2C, 0x2F), (0x3A, 0x3B),
     (0x3F, 0x40), (0x5B, 0x5D), (0x5F, 0x5F), (0x7B, 0x7B), (0x7D, 0x7D)]⟩,
   ⟨["pc", "connectorpunctuation"], [(0x5F, 0x5F)]⟩, ⟨["pd", "dashpunctuation"], [(0x2D, 0x2D)]⟩,
   ⟨["pe", "closepunctuation"], [(0x29, 0x29), (0x5D, 0x5D), (0x7D, 0x7D)]⟩,
   ⟨["pf", "finalpunctuation"], []⟩, ⟨["pi", "initialpunctuation"], []⟩,
   ⟨["po", "otherpunctuation"], [(0x21, 0x23), (0x25, 0x27), (0x2A, 0x2A), (0x2C, 0x2C),
     (0x2E, 0x2F), (0x3A, 0x3B), (0x3F, 0x40), (0x5C, 0x5C)]⟩,
   ⟨["ps", "openpunctuation"], [(0x28, 0x28), (0x5B, 0x5B), (0x7B, 0x7B)]⟩,
   ⟨["s", "symbol"], [(0x24, 0x24), (0x2B, 0x2B), (0x3C, 0x3E), (0x5E, 0x5E), (0x60, 0x60),
     (0x7C, 0x7C), (0x7E, 0x7E)]⟩,
   ⟨["sc", "currencysymbol"], [(0x24, 0x24)]⟩,
   ⟨["sk", "modifiersymbol"], [(0x5E, 0x5E), (0x60, 0x60)]⟩,
   ⟨["sm", "mathsymbol"], [(0x2B, 0x2B), (0x3C, 0x3E), (0x7C, 0x7C), (0x7E, 0x7E)]⟩,
   ⟨["so", "othersymbol"], []⟩, ⟨["z", "separator"], [(0x20, 0x20)]⟩,
   ⟨["zl", "lineseparator"], []⟩, ⟨["zp", "paragraphseparator"], []⟩,
   ⟨["zs", "spaceseparator"], [(0x20, 0x20)]⟩]

/-- Properties that a character has or has not. -/
def binaryProperties : List PropertyRow :=
  [⟨["asciihexdigit", "ahex"], [(0x30, 0x39), (0x41, 0x46), (0x61, 0x66)]⟩,
   ⟨["alphabetic", "alpha"], [(0x41, 0x5A), (0x61, 0x7A), (0x17F, 0x17F), (0x212A, 0x212A)]⟩,
   ⟨["bidicontrol", "bidic"], []⟩,
   ⟨["bidimirrored", "bidim"], [(0x28, 0x29), (0x3C, 0x3C), (0x3E, 0x3E), (0x5B, 0x5B),
     (0x5D, 0x5D), (0x7B, 0x7B), (0x7D, 0x7D)]⟩,
   ⟨["caseignorable", "ci"], [(0x27, 0x27), (0x2E, 0x2E), (0x3A, 0x3A), (0x5E, 0x5E),
     (0x60, 0x60)]⟩,
   ⟨["cased"], [(0x41, 0x5A), (0x61, 0x7A), (0x17F, 0x17F), (0x212A, 0x212A)]⟩,
   ⟨["changeswhencasefolded", "cwcf"], [(0x41, 0x5A), (0x17F, 0x17F), (0x212A, 0x212A)]⟩,
   ⟨["changeswhencasemapped", "cwcm"], [(0x41, 0x5A), (0x61, 0x7A), (0x17F, 0x17F),
     (0x212A, 0x212A)]⟩,
   ⟨["changeswhenlowercased", "cwl"], [(0x41, 0x5A), (0x212A, 0x212A)]⟩,
   ⟨["changeswhentitlecased", "cwt"], [(0x61, 0x7A), (0x17F, 0x17F)]⟩,
   ⟨["changeswhenuppercased", "cwu"], [(0x61, 0x7A), (0x17F, 0x17F)]⟩, ⟨["dash"], [(0x2D, 0x2D)]⟩,
   ⟨["defaultignorablecodepoint", "di"], []⟩, ⟨["deprecated", "dep"], []⟩,
   ⟨["diacritic", "dia"], [(0x5E, 0x5E), (0x60, 0x60)]⟩,
   ⟨["emoji"], [(0x23, 0x23), (0x2A, 0x2A), (0x30, 0x39)]⟩,
   ⟨["emojicomponent", "ecomp"], [(0x23, 0x23), (0x2A, 0x2A), (0x30, 0x39)]⟩,
   ⟨["emojimodifier", "emod"], []⟩, ⟨["emojimodifierbase", "ebase"], []⟩,
   ⟨["emojipresentation", "epres"], []⟩, ⟨["extendedpictographic", "extpict"], []⟩,
   ⟨["extender", "ext"], []⟩,
   ⟨["graphemebase", "grbase"], [(0x20, 0x7E), (0x17F, 0x17F), (0x212A, 0x212A)]⟩,
   ⟨["graphemeextend", "grext"], []⟩,
   ⟨["hexdigit", "hex"], [(0x30, 0x39), (0x41, 0x46), (0x61, 0x66)]⟩,
   ⟨["idsbinaryoperator", "idsb"], []⟩, ⟨["idstrinaryoperator", "idst"], []⟩,
   ⟨["idcontinue", "idc"], [(0x30, 0x39), (0x41, 0x5A), (0x5F, 0x5F), (0x61, 0x7A),
     (0x17F, 0x17F), (0x212A, 0x212A)]⟩,
   ⟨["idstart", "ids"], [(0x41, 0x5A), (0x61, 0x7A), (0x17F, 0x17F), (0x212A, 0x212A)]⟩,
   ⟨["ideographic", "ideo"], []⟩, ⟨["joincontrol", "joinc"], []⟩,
   ⟨["logicalorderexception", "loe"], []⟩,
   ⟨["lowercase", "lower"], [(0x61, 0x7A), (0x17F, 0x17F)]⟩,
   ⟨["math"], [(0x2B, 0x2B), (0x3C, 0x3E), (0x5E, 0x5E), (0x7C, 0x7C), (0x7E, 0x7E)]⟩,
   ⟨["noncharactercodepoint", "nchar"], []⟩,
   ⟨["patternsyntax", "patsyn"], [(0x21, 0x2F), (0x3A, 0x40), (0x5B, 0x5E), (0x60, 0x60),
     (0x7B, 0x7E)]⟩,
   ⟨["patternwhitespace", "patws"], [(0x9, 0xD), (0x20, 0x20)]⟩,
   ⟨["quotationmark", "qmark"], [(0x22, 0x22), (0x27, 0x27)]⟩, ⟨["radical"], []⟩,
   ⟨["regionalindicator", "ri"], []⟩,
   ⟨["sentenceterminal", "sterm"], [(0x21, 0x21), (0x2E, 0x2E), (0x3F, 0x3F)]⟩,
   ⟨["softdotted", "sd"], [(0x69, 0x6A)]⟩,
   ⟨["terminalpunctuation", "term"], [(0x21, 0x21), (0x2C, 0x2C), (0x2E, 0x2E), (0x3A, 0x3B),
     (0x3F, 0x3F)]⟩,
   ⟨["unifiedideograph", "uideo"], []⟩,
   ⟨["uppercase", "upper"], [(0x41, 0x5A), (0x212A, 0x212A)]⟩, ⟨["variationselector", "vs"], []⟩,
   ⟨["whitespace", "wspace", "space"], [(0x9, 0xD), (0x20, 0x20)]⟩,
   ⟨["xidcontinue", "xidc"], [(0x30, 0x39), (0x41, 0x5A), (0x5F, 0x5F), (0x61, 0x7A),
     (0x17F, 0x17F), (0x212A, 0x212A)]⟩,
   ⟨["xidstart", "xids"], [(0x41, 0x5A), (0x61, 0x7A), (0x17F, 0x17F), (0x212A, 0x212A)]⟩,
   ⟨["graphemelink", "grlink"], []⟩, ⟨["hyphen"], [(0x2D, 0x2D)]⟩,
   ⟨["idsunaryoperator", "idsu"], []⟩, ⟨["idcompatmathcontinue"], []⟩,
   ⟨["idcompatmathstart"], []⟩, ⟨["modifiercombiningmark", "mcm"], []⟩,
   ⟨["otheralphabetic", "oalpha"], []⟩, ⟨["otherdefaultignorablecodepoint", "odi"], []⟩,
   ⟨["othergraphemeextend", "ogrext"], []⟩, ⟨["otheridcontinue", "oidc"], []⟩,
   ⟨["otheridstart", "oids"], []⟩, ⟨["otherlowercase", "olower"], []⟩,
   ⟨["othermath", "omath"], [(0x5E, 0x5E)]⟩, ⟨["otheruppercase", "oupper"], []⟩,
   ⟨["prependedconcatenationmark", "pcm"], []⟩]

/-- The scripts with characters of their own below U+0080. -/
def nearScripts : List PropertyRow :=
  [⟨["latin", "latn"], [(0x41, 0x5A), (0x61, 0x7A), (0x17F, 0x17F), (0x212A, 0x212A)]⟩,
   ⟨["common", "zyyy"], [(0x0, 0x40), (0x5B, 0x60), (0x7B, 0x7F)]⟩]

/-- All other scripts. -/
def farScripts : List String :=
  ["adlam", "adlm", "ahom", "anatolianhieroglyphs", "hluw", "arabic", "arab", "armenian", "armn",
   "avestan", "avst", "balinese", "bali", "bamum", "bamu", "bassavah", "bass", "batak", "batk",
   "bengali", "beng", "bhaiksuki", "bhks", "bopomofo", "bopo", "brahmi", "brah", "braille",
   "brai", "buginese", "bugi", "buhid", "buhd", "canadianaboriginal", "cans", "carian", "cari",
   "caucasianalbanian", "aghb", "chakma", "cakm", "cham", "cherokee", "cher", "chorasmian",
   "chrs", "coptic", "copt", "qaac", "cuneiform", "xsux", "cypriot", "cprt", "cyprominoan",
   "cpmn", "cyrillic", "cyrl", "deseret", "dsrt", "devanagari", "deva", "divesakuru", "diak",
   "dogra", "dogr", "duployan", "dupl", "egyptianhieroglyphs", "egyp", "elbasan", "elba",
   "elymaic", "elym", "ethiopic", "ethi", "garay", "gara", "georgian", "geor", "glagolitic",
   "glag", "gothic", "goth", "grantha", "gran", "greek", "grek", "gujarati", "gujr",
   "gunjalagondi", "gong", "gurmukhi", "guru", "gurungkhema", "gukh", "han", "hani", "hangul",
   "hang", "hanifirohingya", "rohg", "hanunoo", "hano", "hatran", "hatr", "hebrew", "hebr",
   "hiragana", "hira", "imperialaramaic", "armi", "inherited", "zinh", "qaai",
   "inscriptionalpahlavi", "phli", "inscriptionalparthian", "prti", "javanese", "java", "kaithi",
   "kthi", "kannada", "knda", "katakana", "kana", "kawi", "kayahli", "kali", "kharoshthi", "khar",
   "khitansmallscript", "kits", "khmer", "khmr", "khojki", "khoj", "khudawadi", "sind",
   "kiratrai", "krai", "lao", "laoo", "lepcha", "lepc", "limbu", "limb", "lineara", "lina",
   "linearb", "linb", "lisu", "lycian", "lyci", "lydian", "lydi", "mahajani", "mahj", "makasar",
   "maka", "malayalam", "mlym", "mandaic", "mand", "manichaean", "mani", "marchen", "marc",
   "masaramgondi", "gonm", "medefaidrin", "medf", "meeteimayek", "mtei", "mendekikakui", "mend",
   "meroiticcursive", "merc", "meroitichieroglyphs", "mero", "miao", "plrd", "modi", "mongolian",
   "mong", "mro", "mroo", "multani", "mult", "myanmar", "mymr", "nabataean", "nbat", "nagmundari",
   "nagm", "nandinagari", "nand", "newtailue", "talu", "newa", "nko", "nkoo", "nushu", "nshu",
   "nyiakengpuachuehmong", "hmnp", "ogham", "ogam", "olchiki", "olck", "olonal", "onao",
   "oldhungarian", "hung", "olditalic", "ital", "oldnortharabian", "narb", "oldpermic", "perm",
   "oldpersian", "xpeo", "oldsogdian", "sogo", "oldsoutharabian", "sarb", "oldturkic", "orkh",
   "olduyghur", "ougr", "oriya", "orya", "osage", "osge", "osmanya", "osma", "pahawhhmong",
   "hmng", "palmyrene", "palm", "paucinhau", "pauc", "phagspa", "phag", "phoenician", "phnx",
   "psalterpahlavi", "phlp", "rejang", "rjng", "runic", "runr", "samaritan", "samr", "saurashtra",
   "saur", "sharada", "shrd", "shavian", "shaw", "siddham", "sidd", "signwriting", "sgnw",
   "sinhala", "sinh", "sogdian", "sogd", "sorasompeng", "sora", "soyombo", "soyo", "sundanese",
   "sund", "sunuwar", "sunu", "sylotinagri", "sylo", "syriac", "syrc", "tagalog", "tglg",
   "tagbanwa", "tagb", "taile", "tale", "taitham", "lana", "taiviet", "tavt", "takri", "takr",
   "tamil", "taml", "tangsa", "tnsa", "tangut", "tang", "telugu", "telu", "thaana", "thaa",
   "thai", "tibetan", "tibt", "tifinagh", "tfng", "tirhuta", "tirh", "todhri", "todr", "toto",
   "tulutigalari", "tutg", "ugaritic", "ugar", "vai", "vaii", "vithkuqi", "vith", "wancho",
   "wcho", "warangciti", "wara", "yezidi", "yezi", "yi", "yiii", "zanabazarsquare", "zanb"]

/-- Properties whose values a pattern cannot name. -/
def otherProperties : List String :=
  ["bc", "bidiclass", "blk", "block", "casefolding", "ccc", "canonicalcombiningclass", "cf",
   "decompositiontype", "dt", "ea", "eastasianwidth", "gcb", "graphemeclusterbreak",
   "hangulsyllabletype", "hst", "jg", "joininggroup", "joiningtype", "jt", "lb", "linebreak", "na",
   "name", "nt", "numerictype", "numericvalue", "nv", "sb", "sentencebreak", "wb", "wordbreak"]

/-- Versions of the standard. All characters below U+0080 are in the first one. -/
def ages : List String :=
  ["1.1", "2.0", "2.1", "3.0", "3.1", "3.2", "4.0", "4.1", "5.0", "5.1", "5.2", "6.0", "6.1",
   "6.2", "6.3", "7.0", "8.0", "9.0", "10.0", "11.0", "12.0", "12.1", "13.0", "14.0", "15.0",
   "15.1", "16.0", "na", "unassigned", "v100", "v11", "v110", "v120", "v121", "v130", "v140",
   "v150", "v151", "v160", "v20", "v21", "v30", "v31", "v32", "v40", "v41", "v50", "v51", "v52",
   "v60", "v61", "v62", "v63", "v70", "v80", "v90"]

/-! ## Names -/

/-- Letters of a name that count: no blanks, no lines, and small letters for capital ones. -/
def significant (cs : List Char) : List Char :=
  (cs.filter fun c => c != ' ' && c != '_' && c != '-' && c.toNat < 0x80).map Char.toLower

/-- A name as the tables have it. A leading "is" counts for nothing, but for one short name. -/
def normalName (name : String) : String :=
  match name.toList with
  | i :: s :: rest =>
    if i.toLower = 'i' ∧ s.toLower = 's' then
      match significant rest with
      | ['c'] => "isc"
      | kept => String.ofList kept
    else String.ofList (significant (i :: s :: rest))
  | cs => String.ofList (significant cs)

def findRow (rows : List PropertyRow) (name : String) : Option (List Range) :=
  (rows.find? fun row => row.names.contains name).map (·.members)

def category? (name : String) : Option (List Range) := findRow categories name

def script? (name : String) : Option (List Range) :=
  match findRow nearScripts name with
  | some members => some members
  | none => if farScripts.contains name then some [] else none

/-- Why a property is not found. -/
inductive PropertyProblem where
  | unknownProperty
  | unknownValue
  deriving DecidableEq, Repr

/-- The characters of a property that stands alone. Three short names are names of categories and
of other properties; the categories go first. -/
def property (name : String) : Except PropertyProblem (List Range) :=
  let name := normalName name
  let binary := if ["cf", "sc", "lc"].contains name then none else findRow binaryProperties name
  match binary with
  | some members => .ok members
  | none =>
    match category? name with
    | some members => .ok members
    | none =>
      match script? name with
      | some members => .ok members
      | none => .error .unknownProperty

/-- The value of a table, or the problem that there is none. -/
def orUnknownValue : Option (List Range) → Except PropertyProblem (List Range)
  | some members => .ok members
  | none => .error .unknownValue

/-- The characters for which a property has a value. -/
def propertyValue (name value : String) : Except PropertyProblem (List Range) :=
  let name := normalName name
  let value := normalName value
  if ["gc", "generalcategory"].contains name then orUnknownValue (category? value)
  else if ["sc", "script", "scx", "scriptextensions"].contains name then
    orUnknownValue (script? value)
  else if name = "age" then
    orUnknownValue (if ages.contains value then category? "any" else none)
  else if otherProperties.contains name || (findRow binaryProperties name).isSome then
    .error .unknownValue
  else .error .unknownProperty

end LayerLint.Pattern
