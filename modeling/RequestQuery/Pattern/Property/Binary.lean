import RequestQuery.Pattern.CharSet
import RequestQuery.Text.Emoji
import RequestQuery.Text.Property
import RequestQuery.Text.Script

namespace RequestQuery.Pattern.Property

open CharSet Text

def alphabetic : CharSet :=
  letter ∪ ofCategory .nl ∪ listed otherAlphabeticRanges

def lowercase : CharSet :=
  ofCategory .ll ∪ listed otherLowercaseRanges

def uppercase : CharSet :=
  ofCategory .lu ∪ listed otherUppercaseRanges

def cased : CharSet :=
  lowercase ∪ uppercase ∪ ofCategory .lt

def ideographic : CharSet :=
  listed ideographicRanges

-- What is folded to another character.
def folded : CharSet :=
  points (CaseFolding.pairs.map (·.1))

-- What others are folded to.
def foldTarget : CharSet :=
  points (CaseFolding.pairs.map (·.2))

-- Georgian letters have capital letters but do not begin words with them, and of two capital letters in
-- one sign the second is made small.
def changesWhenTitlecased (upper : CharSet) : CharSet :=
  (upper \ (ofCategory .lt ∪ listed [(0x10D0, 0x10FA), (0x10FD, 0x10FF)]))
    ∪ listed [(0x1C4, 0x1C4), (0x1C7, 0x1C7), (0x1CA, 0x1CA), (0x1F1, 0x1F1)]

def changesWhenUppercased : CharSet :=
  ((folded ∪ foldTarget) \ uppercase) ∪ listed expandedUpperRanges

-- Capital letters are folded to small ones, except in Cherokee.
def changesWhenLowercased : CharSet :=
  (folded ∩ (uppercase ∪ ofCategory .lt)) ∪ listed [(0x130, 0x130), (0x13A0, 0x13F5)]

-- What is folded to a sequence that it stands for does not change.
def changesWhenCasefolded : CharSet :=
  (folded \ listed [(0x1FBE, 0x1FBE), (0x1FD3, 0x1FD3), (0x1FE3, 0x1FE3)]) ∪ listed expandedFoldRanges

def graphemeExtend : CharSet :=
  ofCategories [.mn, .me] ∪ listed otherGraphemeExtendRanges

def graphemeBase : CharSet :=
  everything \ (ofCategories [.cc, .cf, .cs, .co, .cn, .zl, .zp] ∪ graphemeExtend)

def prependedConcatenationMark : CharSet :=
  listed prependedConcatenationMarkRanges

-- Punctuation that stands inside words.
def midLetter : CharSet :=
  listed [(0x3A, 0x3A), (0xB7, 0xB7), (0x387, 0x387), (0x55F, 0x55F), (0x5F4, 0x5F4), (0x2027, 0x2027),
    (0xFE13, 0xFE13), (0xFE55, 0xFE55), (0xFF1A, 0xFF1A)]

-- Punctuation that stands inside words and numbers.
def midNumLet : CharSet :=
  listed [(0x2E, 0x2E), (0x2018, 0x2019), (0x2024, 0x2024), (0xFE52, 0xFE52), (0xFF07, 0xFF07),
    (0xFF0E, 0xFF0E)]

def caseIgnorable : CharSet :=
  ofCategories [.mn, .me, .cf, .lm, .sk] ∪ midLetter ∪ midNumLet ∪ single '\''

def patternSyntax : CharSet :=
  listed patternSyntaxRanges

def patternBlank : CharSet :=
  listed patternBlankRanges

def idStart : CharSet :=
  (letter ∪ ofCategory .nl ∪ listed otherIdStartRanges) \ (patternSyntax ∪ patternBlank)

def idContinue : CharSet :=
  (idStart ∪ ofCategories [.mn, .mc, .nd, .pc] ∪ listed otherIdContinueRanges)
    \ (patternSyntax ∪ patternBlank)

def variationSelector : CharSet :=
  listed variationSelectorRanges

-- Controls of the format, except the ones that are shown: those of interlinear notes, of hieroglyphs and
-- those that enclose digits.
def defaultIgnorable : CharSet :=
  (listed otherDefaultIgnorableRanges ∪ ofCategory .cf ∪ variationSelector)
    \ (listed [(0xFFF9, 0xFFFB), (0x13430, 0x1343F)] ∪ prependedConcatenationMark)

-- The set of a property, by its long or short name.
def binary? (name : String) : Option CharSet :=
  match name with
  | "asciihexdigit" | "ahex" => ascii? "xdigit"
  | "alphabetic" | "alpha" => some alphabetic
  | "bidicontrol" | "bidic" => some (listed bidiControlRanges)
  | "caseignorable" | "ci" => some caseIgnorable
  | "cased" => some cased
  | "changeswhencasefolded" | "cwcf" => some changesWhenCasefolded
  | "changeswhencasemapped" | "cwcm" =>
    let upper := changesWhenUppercased
    some (changesWhenLowercased ∪ upper ∪ changesWhenTitlecased upper)
  | "changeswhenlowercased" | "cwl" => some changesWhenLowercased
  | "changeswhentitlecased" | "cwt" => some (changesWhenTitlecased changesWhenUppercased)
  | "changeswhenuppercased" | "cwu" => some changesWhenUppercased
  | "dash" => some (ofCategory .pd ∪ listed otherDashRanges)
  | "defaultignorablecodepoint" | "di" => some defaultIgnorable
  | "deprecated" | "dep" => some (listed deprecatedRanges)
  | "diacritic" | "dia" => some (listed diacriticRanges)
  | "emoji" => some (listed emojiRanges)
  | "emojicomponent" | "ecomp" => some (listed emojiComponentRanges)
  | "emojimodifier" | "emod" => some (listed emojiModifierRanges)
  | "emojimodifierbase" | "ebase" => some (listed emojiModifierBaseRanges)
  | "emojipresentation" | "epres" => some (listed emojiPresentationRanges)
  | "extendedpictographic" | "extpict" => some (listed pictographicRanges)
  | "extender" | "ext" => some (listed extenderRanges)
  | "graphemebase" | "grbase" => some graphemeBase
  | "graphemeextend" | "grext" => some graphemeExtend
  | "graphemelink" | "grlink" => some (listed graphemeLinkRanges)
  | "hexdigit" | "hex" =>
    some (unions [ofRanges [('0', '9'), ('A', 'F'), ('a', 'f')],
      listed [(0xFF10, 0xFF19), (0xFF21, 0xFF26), (0xFF41, 0xFF46)]])
  | "hyphen" => some (listed hyphenRanges)
  | "idcompatmathcontinue" => some (listed idCompatMathStartRanges ∪ listed idCompatMathContinueRanges)
  | "idcompatmathstart" => some (listed idCompatMathStartRanges)
  | "idcontinue" | "idc" => some idContinue
  | "idsbinaryoperator" | "idsb" => some (listed [(0x2FF0, 0x2FF1), (0x2FF4, 0x2FFD), (0x31EF, 0x31EF)])
  | "idstrinaryoperator" | "idst" => some (listed [(0x2FF2, 0x2FF3)])
  | "idsunaryoperator" | "idsu" => some (listed [(0x2FFE, 0x2FFF)])
  | "idstart" | "ids" => some idStart
  | "ideographic" | "ideo" => some ideographic
  | "joincontrol" | "joinc" => some (listed joinControlRanges)
  | "logicalorderexception" | "loe" => some (listed logicalOrderExceptionRanges)
  | "lowercase" | "lower" => some lowercase
  | "math" => some (ofCategory .sm ∪ listed otherMathRanges)
  | "modifiercombiningmark" | "mcm" => some (listed modifierCombiningMarkRanges)
  | "noncharactercodepoint" | "nchar" => some (listed nonCharacterRanges)
  | "otheralphabetic" | "oalpha" => some (listed otherAlphabeticRanges)
  | "otherdefaultignorablecodepoint" | "odi" => some (listed otherDefaultIgnorableRanges)
  | "othergraphemeextend" | "ogrext" => some (listed otherGraphemeExtendRanges)
  | "otheridcontinue" | "oidc" => some (listed otherIdContinueRanges)
  | "otheridstart" | "oids" => some (listed otherIdStartRanges)
  | "otherlowercase" | "olower" => some (listed otherLowercaseRanges)
  | "othermath" | "omath" => some (listed otherMathRanges)
  | "otheruppercase" | "oupper" => some (listed otherUppercaseRanges)
  | "patternsyntax" | "patsyn" => some patternSyntax
  | "patternwhitespace" | "patws" => some patternBlank
  | "prependedconcatenationmark" | "pcm" => some prependedConcatenationMark
  | "quotationmark" | "qmark" => some (listed quotationMarkRanges)
  | "radical" => some (listed radicalRanges)
  | "regionalindicator" | "ri" => some (listed regionalIndicatorRanges)
  | "sentenceterminal" | "sterm" => some (listed sentenceTerminalRanges)
  | "softdotted" | "sd" => some (listed softDottedRanges)
  | "terminalpunctuation" | "term" => some (listed sentenceTerminalRanges ∪ listed clauseTerminalRanges)
  | "unifiedideograph" | "uideo" => some (listed unifiedIdeographRanges)
  | "uppercase" | "upper" => some uppercase
  | "variationselector" | "vs" => some variationSelector
  | "whitespace" | "wspace" | "space" => some blank
  | "xidcontinue" | "xidc" => some (idContinue \ listed unstableIdContinueRanges)
  | "xidstart" | "xids" => some (idStart \ listed unstableIdStartRanges)
  | _ => none

end RequestQuery.Pattern.Property
