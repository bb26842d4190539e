import RequestQuery.Pattern.Property.Binary

namespace RequestQuery.Pattern.Property

open CharSet Text

def point (n : Nat) : CharSet :=
  points [n]

def joiners : CharSet :=
  listed joinControlRanges

def regionalIndicator : CharSet :=
  listed regionalIndicatorRanges

def combining : CharSet :=
  graphemeExtend ∪ ofCategory .mc

-- Hangul syllables without a final consonant: one in each block of 28.
def openSyllables : CharSet :=
  points ((List.range 399).map (0xAC00 + 28 * ·))

def syllables : CharSet :=
  listed [(0xAC00, 0xD7A3)]

def graphemeKind? (name : String) : Option CharSet :=
  match name with
  | "cr" => some (point 0x0D)
  | "lf" => some (point 0x0A)
  | "control" | "cn" =>
    some ((ofCategories [.zl, .zp, .cc, .cf] ∪ (ofCategory .cn ∩ defaultIgnorable))
      \ (point 0x0D ∪ point 0x0A ∪ joiners ∪ prependedConcatenationMark ∪ graphemeExtend))
  | "extend" | "ex" => some (graphemeExtend ∪ listed emojiModifierRanges)
  | "zwj" => some (point 0x200D)
  | "regionalindicator" | "ri" => some regionalIndicator
  | "prepend" | "pp" =>
    some (prependedConcatenationMark ∪ listed [(0xD4E, 0xD4E), (0x111C2, 0x111C3), (0x113D1, 0x113D1),
      (0x1193F, 0x1193F), (0x11941, 0x11941), (0x11A84, 0x11A89), (0x11D46, 0x11D46), (0x11F02, 0x11F02)])
  | "spacingmark" | "sm" =>
    some ((ofCategory .mc \ (graphemeExtend ∪ listed [(0x102B, 0x102C), (0x1038, 0x1038),
      (0x1062, 0x1064), (0x1067, 0x106D), (0x1083, 0x1083), (0x1087, 0x108C), (0x108F, 0x108F),
      (0x109A, 0x109C), (0x1A61, 0x1A61), (0x1A63, 0x1A64), (0xAA7B, 0xAA7B), (0xAA7D, 0xAA7D),
      (0x11720, 0x11721)])) ∪ listed [(0xE33, 0xE33), (0xEB3, 0xEB3)])
  | "l" => some (listed [(0x1100, 0x115F), (0xA960, 0xA97C)])
  | "v" => some (listed [(0x1160, 0x11A7), (0xD7B0, 0xD7C6), (0x16D63, 0x16D63), (0x16D67, 0x16D6A)])
  | "t" => some (listed [(0x11A8, 0x11FF), (0xD7CB, 0xD7FB)])
  | "lv" => some openSyllables
  | "lvt" => some (syllables \ openSyllables)
  | _ => none

def hebrewLetter : CharSet :=
  listed ((scriptRanges? "hebrew").getD []) ∩ ofCategory .lo

def katakana : CharSet :=
  listed [(0x3031, 0x3035), (0x309B, 0x309C), (0x30A0, 0x30FA), (0x30FC, 0x30FF), (0x31F0, 0x31FF),
    (0x32D0, 0x32FE), (0x3300, 0x3357), (0xFF66, 0xFF9D), (0x1AFF0, 0x1AFF3), (0x1AFF5, 0x1AFFB),
    (0x1AFFD, 0x1AFFE), (0x1B000, 0x1B000), (0x1B120, 0x1B122), (0x1B155, 0x1B155), (0x1B164, 0x1B167)]

-- Letters of scripts that leave no gaps between words.
def unspacedLetter : CharSet :=
  listed [(0xE01, 0xE3A), (0xE40, 0xE46), (0xE4D, 0xE4D), (0xE81, 0xE82), (0xE84, 0xE84), (0xE86, 0xE8A),
    (0xE8C, 0xEA3), (0xEA5, 0xEA5), (0xEA7, 0xEB9), (0xEBB, 0xEBD), (0xEC0, 0xEC4), (0xEC6, 0xEC6),
    (0xECD, 0xECD), (0xEDC, 0xEDF), (0x1000, 0x1036), (0x1038, 0x1038), (0x103B, 0x103F),
    (0x1050, 0x108F), (0x109A, 0x109D), (0x1780, 0x17B3), (0x17B6, 0x17C8), (0x17D7, 0x17D7),
    (0x17DC, 0x17DC), (0x1950, 0x196D), (0x1970, 0x1974), (0x1980, 0x19AB), (0x19B0, 0x19C9),
    (0x1A20, 0x1A5E), (0x1A61, 0x1A74), (0x1AA7, 0x1AA7), (0xA9E0, 0xA9EF), (0xA9FA, 0xA9FE),
    (0xAA60, 0xAA76), (0xAA7A, 0xAABE), (0xAAC0, 0xAAC0), (0xAAC2, 0xAAC2), (0xAADB, 0xAADD),
    (0x11700, 0x1171A), (0x1171D, 0x1172A), (0x11740, 0x11746)]

-- Signs that are taken for letters.
def letterLike : CharSet :=
  listed [(0xB8, 0xB8), (0x2C2, 0x2C5), (0x2D2, 0x2D7), (0x2DE, 0x2DF), (0x2E5, 0x2EB), (0x2ED, 0x2ED),
    (0x2EF, 0x2FF), (0x55A, 0x55C), (0x55E, 0x55E), (0x58A, 0x58A), (0x5F3, 0x5F3), (0x70F, 0x70F),
    (0xA708, 0xA716), (0xA720, 0xA721), (0xA789, 0xA78A), (0xAB5B, 0xAB5B)]

-- Marks that enclose digits are taken for digits.
def numberMark : CharSet :=
  prependedConcatenationMark \ point 0x70F

def wordKind? (name : String) : Option CharSet :=
  match name with
  | "cr" => some (point 0x0D)
  | "lf" => some (point 0x0A)
  | "newline" | "nl" => some (listed [(0x0B, 0x0C), (0x85, 0x85), (0x2028, 0x2029)])
  | "extend" => some (combining ∪ listed emojiModifierRanges)
  | "zwj" => some (point 0x200D)
  | "format" | "fo" =>
    some (ofCategory .cf \ (point 0x200B ∪ joiners ∪ prependedConcatenationMark ∪ graphemeExtend))
  | "regionalindicator" | "ri" => some regionalIndicator
  | "katakana" | "ka" => some katakana
  | "hebrewletter" | "hl" => some hebrewLetter
  | "aletter" | "le" =>
    some ((alphabetic ∪ letterLike) \ unions [ideographic, katakana, unspacedLetter,
      listed ((scriptRanges? "hiragana").getD []), combining, listed emojiModifierRanges, hebrewLetter])
  | "singlequote" | "sq" => some (point 0x27)
  | "doublequote" | "dq" => some (point 0x22)
  | "midletter" | "ml" => some midLetter
  | "midnum" | "mn" =>
    some (listed [(0x2C, 0x2C), (0x3B, 0x3B), (0x37E, 0x37E), (0x589, 0x589), (0x60C, 0x60D),
      (0x66C, 0x66C), (0x7F8, 0x7F8), (0x2044, 0x2044), (0xFE50, 0xFE50), (0xFE54, 0xFE54),
      (0xFF0C, 0xFF0C), (0xFF1B, 0xFF1B)])
  | "midnumlet" | "mb" => some midNumLet
  | "numeric" | "nu" => some (unions [ofCategory .nd, point 0x66B, point 0x19DA, numberMark])
  | "extendnumlet" | "ex" => some (ofCategory .pc ∪ point 0x202F)
  | "wsegspace" => some (ofCategory .zs \ (point 0xA0 ∪ point 0x2007 ∪ point 0x202F))
  | _ => none

def separator : CharSet :=
  listed [(0x85, 0x85), (0x2028, 0x2029)]

def sentenceSpace : CharSet :=
  blank \ (separator ∪ point 0x0D ∪ point 0x0A)

-- Stops that also stand in abbreviations.
def fullStop : CharSet :=
  listed [(0x2E, 0x2E), (0x2024, 0x2024), (0xFE52, 0xFE52), (0xFF0E, 0xFF0E)]

def sentenceTerminal : CharSet :=
  listed sentenceTerminalRanges \ fullStop

def sentenceExtend : CharSet :=
  combining ∪ joiners

-- Georgian letters have a case that does not tell where a sentence begins.
def sentenceLower : CharSet :=
  lowercase \ (graphemeExtend ∪ listed [(0x10D0, 0x10FA), (0x10FD, 0x10FF)])

def sentenceUpper : CharSet :=
  (uppercase ∪ ofCategory .lt) \ listed [(0x1C90, 0x1CBA), (0x1CBD, 0x1CBF)]

def sentenceKind? (name : String) : Option CharSet :=
  match name with
  | "cr" => some (point 0x0D)
  | "lf" => some (point 0x0A)
  | "extend" | "ex" => some sentenceExtend
  | "sep" | "se" => some separator
  | "format" | "fo" => some (ofCategory .cf \ (joiners ∪ numberMark ∪ graphemeExtend))
  | "sp" => some sentenceSpace
  | "lower" | "lo" => some sentenceLower
  | "upper" | "up" => some sentenceUpper
  | "oletter" | "le" =>
    some ((alphabetic ∪ point 0xA0 ∪ point 0x5F3)
      \ unions [sentenceLower, sentenceUpper, sentenceExtend, sentenceSpace])
  | "numeric" | "nu" => some (unions [ofCategory .nd, listed [(0x66B, 0x66C)], point 0x19DA, numberMark])
  | "aterm" | "at" => some fullStop
  | "scontinue" | "sc" =>
    some (listed [(0x2C, 0x2D), (0x3A, 0x3B), (0x37E, 0x37E), (0x55D, 0x55D), (0x60C, 0x60D),
      (0x7F8, 0x7F8), (0x1802, 0x1802), (0x1808, 0x1808), (0x2013, 0x2014), (0x3001, 0x3001),
      (0xFE10, 0xFE11), (0xFE13, 0xFE14), (0xFE31, 0xFE32), (0xFE50, 0xFE51), (0xFE54, 0xFE55),
      (0xFE58, 0xFE58), (0xFE63, 0xFE63), (0xFF0C, 0xFF0D), (0xFF1A, 0xFF1B), (0xFF64, 0xFF64)])
  | "sterm" | "st" => some sentenceTerminal
  | "close" | "cl" =>
    some ((unions [ofCategories [.ps, .pe, .pi, .pf], point 0x22, point 0x27, listed [(0x275B, 0x2760),
      (0x2E00, 0x2E01), (0x2E06, 0x2E08), (0x2E0B, 0x2E0B), (0x1F676, 0x1F678)]])
      \ (sentenceTerminal ∪ fullStop))
  | _ => none

end RequestQuery.Pattern.Property
