import LiteralPatch.Text.Property.Age
import LiteralPatch.Text.Property.Break
import LiteralPatch.Text.Property.ScriptExtension

namespace LiteralPatch

inductive PropertyFault
  | unknownName
  | unknownValue
  deriving DecidableEq, Repr

/-- A name as it is looked up: in small letters, without separators and without a leading `is`. -/
def Text.lookupName (name : Text) : String :=
  let marked := (name.take 2).map Char.toLower = ['i', 's']
  let letters := (if marked then name.drop 2 else name).filter fun c ↦
    c.toNat < 0x80 && c != ' ' && c != '_' && c != '-'
  let plain := String.ofList (letters.map Char.toLower)
  if marked && plain = "c" then "isc" else plain

namespace Property

/-- Properties whose values are not told apart here. -/
def otherNames : List String := [
  "bc", "bidiclass", "bidimirroringglyph", "bidipairedbracket", "bidipairedbrackettype", "blk",
  "block", "bmg", "bpb", "bpt", "canonicalcombiningclass", "casefolding", "ccc", "ce", "cf",
  "changeswhennfkccasefolded", "cjkaccountingnumeric", "cjkcompatibilityvariant", "cjkiicore",
  "cjkirggsource", "cjkirghsource", "cjkirgjsource", "cjkirgkpsource", "cjkirgksource",
  "cjkirgmsource", "cjkirgssource", "cjkirgtsource", "cjkirguksource", "cjkirgusource",
  "cjkirgvsource", "cjkothernumeric", "cjkprimarynumeric", "cjkrsunicode", "compex",
  "compositionexclusion", "cwkcf", "decompositionmapping", "decompositiontype", "dm", "dt", "ea",
  "eastasianwidth", "equideo", "equivalentunifiedideograph", "expandsonnfc", "expandsonnfd",
  "expandsonnfkc", "expandsonnfkd", "fcnfkc", "fcnfkcclosure", "fullcompositionexclusion",
  "hangulsyllabletype", "hst", "incb", "indicconjunctbreak", "indicpositionalcategory",
  "indicsyllabiccategory", "inpc", "insc", "isc", "jamoshortname", "jg", "joininggroup",
  "joiningtype", "jsn", "jt", "kaccountingnumeric", "kcompatibilityvariant", "kehcat", "kehdesc",
  "kehhg", "kehifao", "kehjsesh", "kehnomirror", "kehnorotate", "kiicore", "kirggsource",
  "kirghsource", "kirgjsource", "kirgkpsource", "kirgksource", "kirgmsource", "kirgssource",
  "kirgtsource", "kirguksource", "kirgusource", "kirgvsource", "kothernumeric",
  "kprimarynumeric", "krsunicode", "lb", "lc", "linebreak", "lowercasemapping", "na", "na1",
  "name", "namealias", "nfcqc", "nfcquickcheck", "nfdqc", "nfdquickcheck", "nfkccasefold",
  "nfkccf", "nfkcqc", "nfkcquickcheck", "nfkcscf", "nfkcsimplecasefold", "nfkdqc",
  "nfkdquickcheck", "nt", "numerictype", "numericvalue", "nv", "ocomment", "scf",
  "sfc", "simplecasefolding", "simplelowercasemapping", "simpletitlecasemapping",
  "simpleuppercasemapping", "slc", "stc", "suc", "tc", "titlecasemapping", "uc", "unicode1name",
  "unicoderadicalstroke", "uppercasemapping", "urs", "verticalorientation", "vo", "xonfc",
  "xonfd", "xonfkc", "xonfkd"]

def categories? (name : String) : Option (List Category) :=
  match name with
  | "lu" | "uppercaseletter" => some [.lu]
  | "ll" | "lowercaseletter" => some [.ll]
  | "lt" | "titlecaseletter" => some [.lt]
  | "lc" | "casedletter" => some [.lu, .ll, .lt]
  | "lm" | "modifierletter" => some [.lm]
  | "lo" | "otherletter" => some [.lo]
  | "l" | "letter" => some [.lu, .ll, .lt, .lm, .lo]
  | "mn" | "nonspacingmark" => some [.mn]
  | "mc" | "spacingmark" => some [.mc]
  | "me" | "enclosingmark" => some [.me]
  | "m" | "mark" | "combiningmark" => some [.mn, .mc, .me]
  | "nd" | "decimalnumber" | "digit" => some [.nd]
  | "nl" | "letternumber" => some [.nl]
  | "no" | "othernumber" => some [.no]
  | "n" | "number" => some [.nd, .nl, .no]
  | "pc" | "connectorpunctuation" => some [.pc]
  | "pd" | "dashpunctuation" => some [.pd]
  | "ps" | "openpunctuation" => some [.ps]
  | "pe" | "closepunctuation" => some [.pe]
  | "pi" | "initialpunctuation" => some [.pi]
  | "pf" | "finalpunctuation" => some [.pf]
  | "po" | "otherpunctuation" => some [.po]
  | "p" | "punctuation" | "punct" => some [.pc, .pd, .ps, .pe, .pi, .pf, .po]
  | "sm" | "mathsymbol" => some [.sm]
  | "sc" | "currencysymbol" => some [.sc]
  | "sk" | "modifiersymbol" => some [.sk]
  | "so" | "othersymbol" => some [.so]
  | "s" | "symbol" => some [.sm, .sc, .sk, .so]
  | "zs" | "spaceseparator" => some [.zs]
  | "zl" | "lineseparator" => some [.zl]
  | "zp" | "paragraphseparator" => some [.zp]
  | "z" | "separator" => some [.zs, .zl, .zp]
  | "cc" | "control" | "cntrl" => some [.cc]
  | "cf" | "format" => some [.cf]
  | "co" | "privateuse" => some [.co]
  | "cn" | "unassigned" => some [.cn]
  | "c" | "other" => some [.cc, .cf, .co, .cn]
  | _ => none

def ofCategory? (name : String) : Option CharSet :=
  match name with
  | "any" => some .any
  | "ascii" => some .ascii
  | "assigned" => some .assigned
  | _ => (categories? name).map CharSet.ofCategories

def emptyNames : List String :=
  ["cs", "surrogate", "hrkt", "katakanaorhiragana", "zzzz", "unknown"]

def ofName (name : String) : Except PropertyFault CharSet :=
  match CharSet.binary? name <|> ofCategory? name <|> (Script.find? name).map Script.members with
  | some s => .ok s
  | none => .error (if emptyNames.contains name then .unknownValue else .unknownName)

def ofValue (name value : String) : Except PropertyFault CharSet :=
  let found : Option CharSet :=
    match name with
    | "gc" | "generalcategory" => ofCategory? value
    | "sc" | "script" => (Script.find? value).map Script.members
    | "scx" | "scriptextensions" => (Script.find? value).map Script.users
    | "age" => Age.upTo? value
    | "gcb" | "graphemeclusterbreak" => CharSet.graphemeBreak? value
    | "wb" | "wordbreak" => CharSet.wordBreak? value
    | "sb" | "sentencebreak" => CharSet.sentenceBreak? value
    | _ => none
  let valued := ["gc", "generalcategory", "sc", "script", "scx", "scriptextensions", "age", "gcb",
    "graphemeclusterbreak", "wb", "wordbreak", "sb", "sentencebreak"]
  match found with
  | some s => .ok s
  | none =>
    if valued.contains name || otherNames.contains name || (CharSet.binary? name).isSome then
      .error .unknownValue
    else .error .unknownName

def cutAround? (sep : Text) : Text → Option (Text × Text)
  | [] => none
  | c :: s =>
    match Text.strip? sep (c :: s) with
    | some after => some ([], after)
    | none => (cutAround? sep s).map fun (a, b) ↦ (c :: a, b)

def read (text : Text) : Except PropertyFault (CharSet × Bool) :=
  let valued (parts : Text × Text) (negated : Bool) : Except PropertyFault (CharSet × Bool) :=
    (ofValue (Text.lookupName parts.1) (Text.lookupName parts.2)).map fun s ↦ (s, negated)
  match cutAround? ['!', '='] text, cutAround? [':'] text, cutAround? ['='] text with
  | some parts, _, _ => valued parts true
  | none, some parts, _ => valued parts false
  | none, none, some parts => valued parts false
  | none, none, none => (ofName (Text.lookupName text)).map fun s ↦ (s, false)

end Property

end LiteralPatch
