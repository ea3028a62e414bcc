import LiteralPatch.Text.Property.Binary
import LiteralPatch.Text.Property.Script

namespace LiteralPatch

namespace CharSet

def emojiModifiers : CharSet := ofRanges [(0x1f3fb, 0x1f3ff)]

def regionalIndicators : CharSet := ofRanges [(0x1f1e6, 0x1f1ff)]

def attached : CharSet := unions [graphemeExtend, ofCategories [.mc], emojiModifiers]

def numericMarks : CharSet :=
  ofRanges [(0x600, 0x605), (0x6dd, 0x6dd), (0x890, 0x891), (0x8e2, 0x8e2), (0x110bd, 0x110bd),
    (0x110cd, 0x110cd)]

def wordFormat : CharSet :=
  ofRanges [(0xad, 0xad), (0x61c, 0x61c), (0x180e, 0x180e), (0x200e, 0x200f), (0x202a, 0x202e),
    (0x2060, 0x2064), (0x2066, 0x206f), (0xfeff, 0xfeff), (0xfff9, 0xfffb), (0x13430, 0x1343f),
    (0x1bca0, 0x1bca3), (0x1d173, 0x1d17a), (0xe0001, 0xe0001)]

def openSyllables : CharSet :=
  ofRanges ((List.range 399).map fun i ↦ (0xac00 + 28 * i, 0xac00 + 28 * i))

def closedSyllables : CharSet :=
  ofRanges ((List.range 399).map fun i ↦ (0xac00 + 28 * i + 1, 0xac00 + 28 * i + 27))

def prepended : CharSet :=
  ofRanges (Property.numberMarks ++ [(0xd4e, 0xd4e), (0x111c2, 0x111c3), (0x113d1, 0x113d1),
    (0x1193f, 0x1193f), (0x11941, 0x11941), (0x11a84, 0x11a89), (0x11d46, 0x11d46),
    (0x11f02, 0x11f02)])

def looseMarks : CharSet :=
  ofRanges [(0x102b, 0x102c), (0x1038, 0x1038), (0x1062, 0x1064), (0x1067, 0x106d),
    (0x1083, 0x1083), (0x1087, 0x108c), (0x108f, 0x108f), (0x109a, 0x109c), (0x1a61, 0x1a61),
    (0x1a63, 0x1a64), (0xaa7b, 0xaa7b), (0xaa7d, 0xaa7d), (0x11720, 0x11721)]

def spacingMarks : CharSet :=
  union (diff (ofCategories [.mc]) (union graphemeExtend looseMarks))
    (ofRanges [(0xe33, 0xe33), (0xeb3, 0xeb3)])

def graphemeControl : CharSet :=
  diff (unions [ofCategories [.zl, .zp, .cc, .cf], inter (ofCategories [.cn]) ignorable])
    (ofRanges ([(0xa, 0xa), (0xd, 0xd), (0x200c, 0x200d), (0xe0020, 0xe007f)] ++
      Property.numberMarks))

def graphemeBreak? : String → Option CharSet
  | "cr" => some (one '\r')
  | "cn" | "control" => some graphemeControl
  | "ex" | "extend" => some (union graphemeExtend emojiModifiers)
  | "l" => some (ofRanges [(0x1100, 0x115f), (0xa960, 0xa97c)])
  | "lf" => some (one '\n')
  | "lv" => some openSyllables
  | "lvt" => some closedSyllables
  | "pp" | "prepend" => some prepended
  | "ri" | "regionalindicator" => some regionalIndicators
  | "sm" | "spacingmark" => some spacingMarks
  | "t" => some (ofRanges [(0x11a8, 0x11ff), (0xd7cb, 0xd7fb)])
  | "v" =>
    some (ofRanges [(0x1160, 0x11a7), (0x16d63, 0x16d63), (0x16d67, 0x16d6a), (0xd7b0, 0xd7c6)])
  | "zwj" => some (ofRanges [(0x200d, 0x200d)])
  | _ => none

def katakanaWords : CharSet :=
  ofRanges [(0x3031, 0x3035), (0x309b, 0x309c), (0x30a0, 0x30fa), (0x30fc, 0x30ff),
    (0x31f0, 0x31ff), (0x32d0, 0x32fe), (0x3300, 0x3357), (0xff66, 0xff9d), (0x1aff0, 0x1aff3),
    (0x1aff5, 0x1affb), (0x1affd, 0x1affe), (0x1b000, 0x1b000), (0x1b120, 0x1b122),
    (0x1b155, 0x1b155), (0x1b164, 0x1b167)]

def hebrewLetters : CharSet :=
  ofRanges [(0x5d0, 0x5ea), (0x5ef, 0x5f2), (0xfb1d, 0xfb1d), (0xfb1f, 0xfb28), (0xfb2a, 0xfb36),
    (0xfb38, 0xfb3c), (0xfb3e, 0xfb3e), (0xfb40, 0xfb41), (0xfb43, 0xfb44), (0xfb46, 0xfb4f)]

def unspaced : CharSet :=
  unions ((["thai", "laoo", "mymr", "khmr", "tale", "talu", "lana", "tavt", "ahom",
    "hira"].filterMap Script.find?).map Script.members)

def wordSigns : CharSet :=
  ofRanges [(0xb8, 0xb8), (0x2c2, 0x2c5), (0x2d2, 0x2d7), (0x2de, 0x2df), (0x2e5, 0x2eb),
    (0x2ed, 0x2ed), (0x2ef, 0x2ff), (0x55a, 0x55c), (0x55e, 0x55e), (0x58a, 0x58a), (0x5f3, 0x5f3),
    (0x70f, 0x70f), (0xa708, 0xa716), (0xa720, 0xa721), (0xa789, 0xa78a), (0xab5b, 0xab5b)]

def wordLetters : CharSet :=
  union wordSigns (diff alphabetic
    (unions [ofRanges Property.ideographs, unspaced, attached, katakanaWords, hebrewLetters]))

def wordBreak? : String → Option CharSet
  | "le" | "aletter" => some wordLetters
  | "cr" => some (one '\r')
  | "dq" | "doublequote" => some (one '"')
  | "extend" => some attached
  | "ex" | "extendnumlet" =>
    some (ofRanges [(0x5f, 0x5f), (0x202f, 0x202f), (0x203f, 0x2040), (0x2054, 0x2054),
      (0xfe33, 0xfe34), (0xfe4d, 0xfe4f), (0xff3f, 0xff3f)])
  | "fo" | "format" => some wordFormat
  | "hl" | "hebrewletter" => some hebrewLetters
  | "ka" | "katakana" => some katakanaWords
  | "lf" => some (one '\n')
  | "ml" | "midletter" =>
    some (ofRanges [(0x3a, 0x3a), (0xb7, 0xb7), (0x387, 0x387), (0x55f, 0x55f), (0x5f4, 0x5f4),
      (0x2027, 0x2027), (0xfe13, 0xfe13), (0xfe55, 0xfe55), (0xff1a, 0xff1a)])
  | "mn" | "midnum" =>
    some (ofRanges [(0x2c, 0x2c), (0x3b, 0x3b), (0x37e, 0x37e), (0x589, 0x589), (0x60c, 0x60d),
      (0x66c, 0x66c), (0x7f8, 0x7f8), (0x2044, 0x2044), (0xfe50, 0xfe50), (0xfe54, 0xfe54),
      (0xff0c, 0xff0c), (0xff1b, 0xff1b)])
  | "mb" | "midnumlet" =>
    some (ofRanges [(0x2e, 0x2e), (0x2018, 0x2019), (0x2024, 0x2024), (0xfe52, 0xfe52),
      (0xff07, 0xff07), (0xff0e, 0xff0e)])
  | "nl" | "newline" => some (ofRanges [(0xb, 0xc), (0x85, 0x85), (0x2028, 0x2029)])
  | "nu" | "numeric" =>
    some (unions [digit, numericMarks, ofRanges [(0x66b, 0x66b), (0x19da, 0x19da)]])
  | "ri" | "regionalindicator" => some regionalIndicators
  | "sq" | "singlequote" => some (one '\'')
  | "wsegspace" =>
    some (ofRanges [(0x20, 0x20), (0x1680, 0x1680), (0x2000, 0x2006), (0x2008, 0x200a),
      (0x205f, 0x205f), (0x3000, 0x3000)])
  | "zwj" => some (ofRanges [(0x200d, 0x200d)])
  | _ => none

def stops : CharSet :=
  ofRanges [(0x2e, 0x2e), (0x2024, 0x2024), (0xfe52, 0xfe52), (0xff0e, 0xff0e)]

def georgianSmall : CharSet := ofRanges [(0x10d0, 0x10fa), (0x10fd, 0x10ff)]

def georgianCapital : CharSet := ofRanges [(0x1c90, 0x1cba), (0x1cbd, 0x1cbf)]

def sentenceLower : CharSet := diff lowercase (union attached georgianSmall)

def sentenceUpper : CharSet := diff (union uppercase (ofCategories [.lt])) georgianCapital

def sentenceBreak? : String → Option CharSet
  | "at" | "aterm" => some stops
  | "cl" | "close" =>
    some (union (ofCategories [.ps, .pe, .pi, .pf])
      (ofRanges [(0x22, 0x22), (0x27, 0x27), (0x275b, 0x2760), (0x2e00, 0x2e01), (0x2e06, 0x2e08),
        (0x2e0b, 0x2e0b), (0x1f676, 0x1f678)]))
  | "cr" => some (one '\r')
  | "ex" | "extend" =>
    some (union (diff attached emojiModifiers) (ofRanges [(0x200d, 0x200d)]))
  | "fo" | "format" => some (union wordFormat (ofRanges [(0x70f, 0x70f), (0x200b, 0x200b)]))
  | "lf" => some (one '\n')
  | "lo" | "lower" => some sentenceLower
  | "nu" | "numeric" =>
    some (unions [digit, numericMarks, ofRanges [(0x66b, 0x66c), (0x19da, 0x19da)]])
  | "le" | "oletter" =>
    some (diff
      (union alphabetic (ofRanges [(0x5f3, 0x5f3)]))
      (unions [attached, sentenceLower, sentenceUpper]))
  | "sc" | "scontinue" =>
    some (ofRanges [(0x2c, 0x2d), (0x3a, 0x3b), (0x37e, 0x37e), (0x55d, 0x55d), (0x60c, 0x60d),
      (0x7f8, 0x7f8), (0x1802, 0x1802), (0x1808, 0x1808), (0x2013, 0x2014), (0x3001, 0x3001),
      (0xfe10, 0xfe11), (0xfe13, 0xfe14), (0xfe31, 0xfe32), (0xfe50, 0xfe51), (0xfe54, 0xfe55),
      (0xfe58, 0xfe58), (0xfe63, 0xfe63), (0xff0c, 0xff0d), (0xff1a, 0xff1b), (0xff64, 0xff64)])
  | "se" | "sep" => some (ofRanges [(0x85, 0x85), (0x2028, 0x2029)])
  | "sp" =>
    some (ofRanges [(0x9, 0x9), (0xb, 0xc), (0x20, 0x20), (0xa0, 0xa0), (0x1680, 0x1680),
      (0x2000, 0x200a), (0x202f, 0x202f), (0x205f, 0x205f), (0x3000, 0x3000)])
  | "st" | "sterm" => some (diff (ofRanges Property.sentenceEnds) stops)
  | "up" | "upper" => some sentenceUpper
  | _ => none

end CharSet

end LiteralPatch
