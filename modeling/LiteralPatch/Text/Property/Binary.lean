import LiteralPatch.Text.Category
import LiteralPatch.Text.Property.Table

namespace LiteralPatch

namespace CharSet

def letters : CharSet := ofCategories [.lu, .ll, .lt, .lm, .lo]

def marks : CharSet := ofCategories [.mn, .mc, .me]

def alphabetic : CharSet :=
  unions [letters, ofCategories [.nl], ofRanges Property.alphabeticMarks]

def lowercase : CharSet := union (ofCategories [.ll]) (ofRanges Property.smallLetters)

def uppercase : CharSet := union (ofCategories [.lu]) (ofRanges Property.capitalLetters)

def cased : CharSet := unions [lowercase, uppercase, ofCategories [.lt]]

def caseIgnorable : CharSet :=
  union (ofCategories [.mn, .me, .cf, .lm, .sk]) (ofRanges Property.caseIgnorablePunctuation)

def lowered : CharSet := symmDiff uppercase (ofRanges Property.capitalsUnlikeLowering)

def raised : CharSet := symmDiff lowercase (ofRanges Property.smallUnlikeRaising)

def titled : CharSet := symmDiff raised (ofRanges Property.titleUnlikeRaising)

def caseFolded : CharSet := symmDiff lowered (ofRanges Property.foldingUnlikeLowering)

def graphemeExtend : CharSet :=
  union (ofCategories [.mn, .me]) (ofRanges Property.graphemeExtenders)

def graphemeBase : CharSet :=
  diff any (union graphemeExtend (ofCategories [.cc, .cf, .co, .cn, .zl, .zp]))

def identifierSigns : CharSet :=
  ofRanges [(0x1885, 0x1886), (0x2118, 0x2118), (0x212e, 0x212e), (0x309b, 0x309c)]

def patternReserved : CharSet :=
  ofRanges (Property.patternSyntax ++ Property.patternBlanks)

def identifierStart : CharSet :=
  diff (unions [letters, ofCategories [.nl], identifierSigns]) patternReserved

def identifierContinue : CharSet :=
  diff
    (unions [letters, ofCategories [.nl, .mn, .mc, .nd, .pc], identifierSigns,
      ofRanges Property.identifierContinuers])
    patternReserved

def formulaStart : CharSet :=
  ofRanges [(0x2202, 0x2202), (0x2207, 0x2207), (0x221e, 0x221e), (0x1d6c1, 0x1d6c1),
    (0x1d6db, 0x1d6db), (0x1d6fb, 0x1d6fb), (0x1d715, 0x1d715), (0x1d735, 0x1d735),
    (0x1d74f, 0x1d74f), (0x1d76f, 0x1d76f), (0x1d789, 0x1d789), (0x1d7a9, 0x1d7a9),
    (0x1d7c3, 0x1d7c3)]

def formulaContinue : CharSet :=
  union formulaStart (ofRanges [(0xb2, 0xb3), (0xb9, 0xb9), (0x2070, 0x2070), (0x2074, 0x207e),
    (0x2080, 0x208e)])

def noncharacters : CharSet :=
  ofRanges ((0xfdd0, 0xfdef) :: (List.range 17).map fun plane ↦
    (0x10000 * plane + 0xfffe, 0x10000 * plane + 0xffff))

def joinControls : CharSet := ofRanges [(0x200c, 0x200d)]

def blank : CharSet := ofRanges Property.blanks

def digit : CharSet := ofCategories [.nd]

def word : CharSet :=
  unions [alphabetic, marks, ofCategories [.nd, .pc], joinControls]

def ignorable : CharSet :=
  diff
    (unions [ofCategories [.cf], ofRanges Property.ignorable, ofRanges Property.variationSelectors])
    (ofRanges (Property.numberMarks ++ [(0xfff9, 0xfffb), (0x13430, 0x1343f)]))

def asciiHexDigits : List (Nat × Nat) := [(0x30, 0x39), (0x41, 0x46), (0x61, 0x66)]

/-- The characters of a property, by its short or long name in small letters without separators. -/
def binary? : String → Option CharSet
  | "ahex" | "asciihexdigit" => some (ofRanges asciiHexDigits)
  | "alpha" | "alphabetic" => some alphabetic
  | "bidic" | "bidicontrol" => some (ofRanges Property.bidiControls)
  | "bidim" | "bidimirrored" => some (ofRanges Property.mirrored)
  | "ci" | "caseignorable" => some caseIgnorable
  | "cased" => some cased
  | "cwcf" | "changeswhencasefolded" => some caseFolded
  | "cwcm" | "changeswhencasemapped" => some (unions [lowered, raised, titled])
  | "cwl" | "changeswhenlowercased" => some lowered
  | "cwt" | "changeswhentitlecased" => some titled
  | "cwu" | "changeswhenuppercased" => some raised
  | "dash" => some (ofRanges Property.dashes)
  | "di" | "defaultignorablecodepoint" => some ignorable
  | "dep" | "deprecated" => some (ofRanges Property.deprecated)
  | "dia" | "diacritic" => some (ofRanges Property.diacritics)
  | "emoji" => some (ofRanges Property.emoji)
  | "ecomp" | "emojicomponent" => some (ofRanges Property.emojiComponents)
  | "emod" | "emojimodifier" => some (ofRanges [(0x1f3fb, 0x1f3ff)])
  | "ebase" | "emojimodifierbase" => some (ofRanges Property.emojiBases)
  | "epres" | "emojipresentation" => some (ofRanges Property.emojiPresented)
  | "extpict" | "extendedpictographic" => some (ofRanges Property.pictographs)
  | "ext" | "extender" => some (ofRanges Property.extenders)
  | "grbase" | "graphemebase" => some graphemeBase
  | "grext" | "graphemeextend" => some graphemeExtend
  | "grlink" | "graphemelink" => some (ofRanges Property.viramas)
  | "hex" | "hexdigit" =>
    some (ofRanges (asciiHexDigits ++ asciiHexDigits.map fun (a, b) ↦ (a + 0xfee0, b + 0xfee0)))
  | "hyphen" => some (ofRanges Property.hyphens)
  | "idsb" | "idsbinaryoperator" => some (ofRanges Property.idsBinary)
  | "idst" | "idstrinaryoperator" => some (ofRanges [(0x2ff2, 0x2ff3)])
  | "idsu" | "idsunaryoperator" => some (ofRanges [(0x2ffe, 0x2fff)])
  | "idcompatmathcontinue" => some formulaContinue
  | "idcompatmathstart" => some formulaStart
  | "idc" | "idcontinue" => some identifierContinue
  | "ids" | "idstart" => some identifierStart
  | "ideo" | "ideographic" => some (ofRanges Property.ideographs)
  | "joinc" | "joincontrol" => some joinControls
  | "loe" | "logicalorderexception" => some (ofRanges Property.visualOrderVowels)
  | "lower" | "lowercase" => some lowercase
  | "math" => some (union (ofCategories [.sm]) (ofRanges Property.mathematical))
  | "mcm" | "modifiercombiningmark" => some (ofRanges Property.combiningModifiers)
  | "nchar" | "noncharactercodepoint" => some noncharacters
  | "oalpha" | "otheralphabetic" => some (ofRanges Property.alphabeticMarks)
  | "odi" | "otherdefaultignorablecodepoint" => some (ofRanges Property.ignorable)
  | "ogrext" | "othergraphemeextend" => some (ofRanges Property.graphemeExtenders)
  | "oidc" | "otheridcontinue" => some (ofRanges Property.identifierContinuers)
  | "oids" | "otheridstart" => some identifierSigns
  | "olower" | "otherlowercase" => some (ofRanges Property.smallLetters)
  | "omath" | "othermath" => some (ofRanges Property.mathematical)
  | "oupper" | "otheruppercase" => some (ofRanges Property.capitalLetters)
  | "patsyn" | "patternsyntax" => some (ofRanges Property.patternSyntax)
  | "patws" | "patternwhitespace" => some (ofRanges Property.patternBlanks)
  | "pcm" | "prependedconcatenationmark" => some (ofRanges Property.numberMarks)
  | "qmark" | "quotationmark" => some (ofRanges Property.quotationMarks)
  | "radical" => some (ofRanges Property.radicals)
  | "ri" | "regionalindicator" => some (ofRanges [(0x1f1e6, 0x1f1ff)])
  | "sterm" | "sentenceterminal" => some (ofRanges Property.sentenceEnds)
  | "sd" | "softdotted" => some (ofRanges Property.softDotted)
  | "term" | "terminalpunctuation" => some (ofRanges Property.terminals)
  | "uideo" | "unifiedideograph" => some (ofRanges Property.unifiedIdeographs)
  | "upper" | "uppercase" => some uppercase
  | "vs" | "variationselector" => some (ofRanges Property.variationSelectors)
  | "wspace" | "whitespace" | "space" => some blank
  | "xidc" | "xidcontinue" => some (diff identifierContinue (ofRanges Property.continuersUnstable))
  | "xids" | "xidstart" => some (diff identifierStart (ofRanges Property.startsUnstable))
  | _ => none

end CharSet

end LiteralPatch
