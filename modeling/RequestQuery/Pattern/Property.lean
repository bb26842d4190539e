import RequestQuery.Pattern.Fault
import RequestQuery.Pattern.Property.Break
import RequestQuery.Text.Age
import RequestQuery.Text.ScriptExtension

namespace RequestQuery.Pattern.Property

open Text

-- Letter case, blanks, underscores, hyphens and all that is not ASCII make no difference in a name, nor does
-- `is` in front. One name begins with `is` for itself.
def normal (name : String) : String :=
  let cs := name.toList.map Char.toLower
  let kept := List.filter fun c => c.toNat < 128 && !(c == ' ' || c == '_' || c == '-')
  if "is".toList.isPrefixOf cs then
    let rest := kept (cs.drop 2)
    if rest = ['c'] then "isc" else .ofList rest
  else
    .ofList (kept cs)

-- General categories and groups of them.
def categories? (name : String) : Option (List Category) :=
  match name with
  | "l" | "letter"                     => some [.lu, .ll, .lt, .lm, .lo]
  | "lc" | "casedletter"               => some [.lu, .ll, .lt]
  | "lu" | "uppercaseletter"           => some [.lu]
  | "ll" | "lowercaseletter"           => some [.ll]
  | "lt" | "titlecaseletter"           => some [.lt]
  | "lm" | "modifierletter"            => some [.lm]
  | "lo" | "otherletter"               => some [.lo]
  | "m" | "mark" | "combiningmark"     => some [.mn, .mc, .me]
  | "mn" | "nonspacingmark"            => some [.mn]
  | "mc" | "spacingmark"               => some [.mc]
  | "me" | "enclosingmark"             => some [.me]
  | "n" | "number"                     => some [.nd, .nl, .no]
  | "nd" | "decimalnumber" | "digit"   => some [.nd]
  | "nl" | "letternumber"              => some [.nl]
  | "no" | "othernumber"               => some [.no]
  | "p" | "punctuation" | "punct"      => some [.pc, .pd, .ps, .pe, .pi, .pf, .po]
  | "pc" | "connectorpunctuation"      => some [.pc]
  | "pd" | "dashpunctuation"           => some [.pd]
  | "ps" | "openpunctuation"           => some [.ps]
  | "pe" | "closepunctuation"          => some [.pe]
  | "pi" | "initialpunctuation"        => some [.pi]
  | "pf" | "finalpunctuation"          => some [.pf]
  | "po" | "otherpunctuation"          => some [.po]
  | "s" | "symbol"                     => some [.sm, .sc, .sk, .so]
  | "sm" | "mathsymbol"                => some [.sm]
  | "sc" | "currencysymbol"            => some [.sc]
  | "sk" | "modifiersymbol"            => some [.sk]
  | "so" | "othersymbol"               => some [.so]
  | "z" | "separator"                  => some [.zs, .zl, .zp]
  | "zs" | "spaceseparator"            => some [.zs]
  | "zl" | "lineseparator"             => some [.zl]
  | "zp" | "paragraphseparator"        => some [.zp]
  | "c" | "other"                      => some [.cc, .cf, .co, .cn]
  | "cc" | "control" | "cntrl"         => some [.cc]
  | "cf" | "format"                    => some [.cf]
  | "co" | "privateuse"                => some [.co]
  | "cn" | "unassigned"                => some [.cn]
  | _ => none

def category? (name : String) : Option CharSet :=
  match name with
  | "any"      => some .everything
  | "ascii"    => some .ascii
  | "assigned" => some (.inverse (.ofCategory .cn))
  | _          => .ofCategories <$> categories? name

def script? (name : String) : Option CharSet :=
  .listed <$> scriptRanges? name

-- What is used with a script: also common and inherited characters, if they are kept to some scripts.
def scriptExtension? (name : String) : Option CharSet := do
  let s ← script? name
  match name with
  | "common" | "zyyy" | "inherited" | "zinh" | "qaai" => return s \ .listed sharedRanges
  | _ => return s ∪ .listed (scriptExtensionRanges name)

-- Known values that stand for no set of characters: surrogates, characters of no script, and the one
-- script for both kinds of Japanese syllables.
def emptyValues : List String :=
  ["cs", "surrogate", "zzzz", "unknown", "hrkt", "katakanaorhiragana"]

-- The characters that a version has, by its number or a name without points.
def age? (name : String) : Option CharSet := do
  let upTo := versions.takeWhile fun version => !names version name
  let version ← versions[upTo.length]?
  return .unions ((upTo ++ [version]).map fun version => .listed (newRanges version))
where
  names (version name : String) : Bool :=
    name == version || name.toList == 'v' :: version.toList.filter (· != '.')

-- Properties that have no set of their own, or only sets by value.
def otherProperties : List String :=
  ["age", "bc", "bidiclass", "bidim", "bidimirrored", "bidimirroringglyph", "bidipairedbracket",
   "bidipairedbrackettype", "blk", "block", "bmg", "bpb", "bpt", "canonicalcombiningclass",
   "casefolding", "ccc", "ce", "cf", "changeswhennfkccasefolded", "cjkaccountingnumeric",
   "cjkcompatibilityvariant", "cjkiicore", "cjkirggsource", "cjkirghsource", "cjkirgjsource",
   "cjkirgkpsource", "cjkirgksource", "cjkirgmsource", "cjkirgssource", "cjkirgtsource",
   "cjkirguksource", "cjkirgusource", "cjkirgvsource", "cjkothernumeric", "cjkprimarynumeric",
   "cjkrsunicode", "compex", "compositionexclusion", "cwkcf", "decompositionmapping",
   "decompositiontype", "dm", "dt", "ea", "eastasianwidth", "equideo", "equivalentunifiedideograph",
   "expandsonnfc", "expandsonnfd", "expandsonnfkc", "expandsonnfkd", "fcnfkc", "fcnfkcclosure",
   "fullcompositionexclusion", "gc", "gcb", "generalcategory", "graphemeclusterbreak",
   "hangulsyllabletype", "hst", "incb", "indicconjunctbreak", "indicpositionalcategory",
   "indicsyllabiccategory", "inpc", "insc", "isc", "jamoshortname", "jg", "joininggroup", "joiningtype",
   "jsn", "jt", "kaccountingnumeric", "kcompatibilityvariant", "kehcat", "kehdesc", "kehhg", "kehifao",
   "kehcore", "kehjsesh", "kehnomirror", "kehnorotate", "kiicore", "kirggsource", "kirghsource",
   "kirgjsource", "kirgkpsource", "kirgksource", "kirgmsource", "kirgssource", "kirgtsource",
   "kirguksource", "kirgusource", "kirgvsource", "kothernumeric", "kprimarynumeric", "krsunicode", "lb",
   "lc", "linebreak", "lowercasemapping", "na", "na1", "name", "namealias", "nfcqc", "nfcquickcheck",
   "nfdqc", "nfdquickcheck", "nfkccasefold", "nfkccf", "nfkcqc", "nfkcquickcheck", "nfkcscf",
   "nfkcsimplecasefold", "nfkdqc", "nfkdquickcheck", "nt", "numerictype", "numericvalue", "nv",
   "ocomment", "sb", "sc", "scf", "script", "scriptextensions", "scx", "sentencebreak", "sfc",
   "simplecasefolding", "simplelowercasemapping", "simpletitlecasemapping", "simpleuppercasemapping",
   "slc", "stc", "suc", "tc", "titlecasemapping", "uc", "unicode1name", "unicoderadicalstroke",
   "uppercasemapping", "urs", "verticalorientation", "vo", "wb", "wordbreak", "xonfc", "xonfd",
   "xonfkc", "xonfkd"]

def isProperty (name : String) : Bool :=
  (binary? name).isSome || name ∈ otherProperties

-- The set of a name alone. What names a property and a category or script as well means the property, but
-- for three short names of categories.
def named (name : String) : Except Flaw CharSet :=
  let name := normal name
  if isProperty name ∧ name ∉ ["cf", "lc", "sc"] then
    (binary? name).elim (.error .propertyUnknown) .ok
  else match (category? name).or (script? name) with
    | some s => .ok s
    | none   => .error (if name ∈ emptyValues then .propertyValueUnknown else .propertyUnknown)

-- The set of a value that a property has.
def valued (name value : String) : Except Flaw CharSet :=
  let value := normal value
  let found (set? : Option CharSet) := set?.elim (.error .propertyValueUnknown) .ok
  match normal name with
  | "gc" | "generalcategory"       => found (category? value)
  | "sc" | "script"                => found (script? value)
  | "scx" | "scriptextensions"     => found (scriptExtension? value)
  | "age"                          => found (age? value)
  | "gcb" | "graphemeclusterbreak" => found (graphemeKind? value)
  | "wb" | "wordbreak"             => found (wordKind? value)
  | "sb" | "sentencebreak"         => found (sentenceKind? value)
  | other => .error (if isProperty other then .propertyValueUnknown else .propertyUnknown)

end RequestQuery.Pattern.Property
