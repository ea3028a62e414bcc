import LiteralPatch.Text

namespace LiteralPatch

inductive PatternFault
  | classEscapeInvalid
  | classRangeInvalid
  | classRangeLiteral
  | classUnclosed
  | decimalInvalid
  | escapeHexEmpty
  | escapeHexInvalid
  | escapeHexInvalidDigit
  | escapeUnexpectedEnd
  | escapeUnrecognized
  | flagDanglingNegation
  | flagDuplicate
  | flagRepeatedNegation
  | flagUnexpectedEnd
  | flagUnrecognized
  | groupNameDuplicate
  | groupNameEmpty
  | groupNameInvalid
  | groupNameUnexpectedEnd
  | groupUnclosed
  | groupUnopened
  | countInvalid
  | countEmpty
  | countUnclosed
  | repetitionMissing
  | wordBoundaryUnclosed
  | wordBoundaryUnrecognized
  | wordBoundaryOrCountUnclosed
  | propertyNameInvalid
  | backreference
  | lookAround
  | unicodeNotAllowed
  | invalidUtf8
  | propertyNotFound
  | propertyValueNotFound
  | tooNested
  deriving DecidableEq, Repr

/-- How many groups, repetitions, alternations, sequences and sets may be in one another. -/
def nestingLimit : Nat := 250

namespace PatternFault

def message : PatternFault → String
  | classEscapeInvalid => "invalid escape sequence found in character class"
  | classRangeInvalid => "invalid character class range, the start must be <= the end"
  | classRangeLiteral => "invalid range boundary, must be a literal"
  | classUnclosed => "unclosed character class"
  | decimalInvalid => "decimal literal invalid"
  | escapeHexEmpty => "hexadecimal literal empty"
  | escapeHexInvalid => "hexadecimal literal is not a Unicode scalar value"
  | escapeHexInvalidDigit => "invalid hexadecimal digit"
  | escapeUnexpectedEnd => "incomplete escape sequence, reached end of pattern prematurely"
  | escapeUnrecognized => "unrecognized escape sequence"
  | flagDanglingNegation => "dangling flag negation operator"
  | flagDuplicate => "duplicate flag"
  | flagRepeatedNegation => "flag negation operator repeated"
  | flagUnexpectedEnd => "expected flag but got end of regex"
  | flagUnrecognized => "unrecognized flag"
  | groupNameDuplicate => "duplicate capture group name"
  | groupNameEmpty => "empty capture group name"
  | groupNameInvalid => "invalid capture group character"
  | groupNameUnexpectedEnd => "unclosed capture group name"
  | groupUnclosed => "unclosed group"
  | groupUnopened => "unopened group"
  | countInvalid => "invalid repetition count range, the start must be <= the end"
  | countEmpty => "repetition quantifier expects a valid decimal"
  | countUnclosed => "unclosed counted repetition"
  | repetitionMissing => "repetition operator missing expression"
  | wordBoundaryUnclosed =>
    "special word boundary assertion is either unclosed or contains an invalid character"
  | wordBoundaryUnrecognized =>
    "unrecognized special word boundary assertion, " ++
      "valid choices are: start, end, start-half or end-half"
  | wordBoundaryOrCountUnclosed =>
    "found either the beginning of a special word boundary or a bounded repetition on a \\b " ++
      "with an opening brace, but no closing brace"
  | propertyNameInvalid => "invalid Unicode character class"
  | backreference => "backreferences are not supported"
  | lookAround => "look-around, including look-ahead and look-behind, is not supported"
  | unicodeNotAllowed => "Unicode not allowed here"
  | invalidUtf8 => "pattern can match invalid UTF-8"
  | propertyNotFound => "Unicode property not found"
  | propertyValueNotFound => "Unicode property value not found"
  | tooNested => s!"exceed the maximum number of nested parentheses/brackets ({nestingLimit})"

end PatternFault

structure Stretch where
  start : Nat
  stop : Nat
  deriving DecidableEq, Repr

structure PatternError where
  fault : PatternFault
  place : Stretch
  earlier : Option Stretch := none
  deriving DecidableEq, Repr

namespace PatternError

def coordinates (pattern : Text) (n : Nat) : Nat × Nat :=
  let before := pattern.take n
  (before.count '\n' + 1, (before.reverse.takeWhile (· ≠ '\n')).length + 1)

def lines (pattern : Text) : List Text :=
  let ls := pattern.splitOn '\n'
  let ls := if ls.getLast? = some [] then ls.dropLast else ls
  ls.map fun l ↦ if l.getLast? = some '\r' then l.dropLast else l

def carets : Nat → List (Nat × Nat) → String
  | _, [] => ""
  | reached, (first, last) :: rest =>
    let blanks := first - 1 - reached
    let width := max 1 (last - first)
    "".pushn ' ' blanks ++ "".pushn '^' width ++ carets (reached + blanks + width) rest

def notes (pattern : Text) (places : List ((Nat × Nat) × (Nat × Nat))) : String :=
  let ls := lines pattern
  let count := if pattern.getLast? = some '\n' then ls.length + 1 else ls.length
  let width := if count ≤ 1 then 0 else s!"{count}".length
  let indent := if width = 0 then 4 else width + 2
  String.join (ls.zipIdx.map fun (l, i) ↦
    let number := s!"{i + 1}"
    let head := if width = 0 then "    " else "".pushn ' ' (width - number.length) ++ number ++ ": "
    let here := places.filter fun (a, b) ↦ a.1 = i + 1 && b.1 = i + 1
    let columns := (here.map fun (a, b) ↦ (a.2, b.2)).mergeSort
      fun a b ↦ a.1 < b.1 || (a.1 = b.1 && a.2 ≤ b.2)
    let marks := if columns.isEmpty then "" else "".pushn ' ' indent ++ carets 0 columns ++ "\n"
    head ++ String.ofList l ++ "\n" ++ marks)

def message (pattern : Text) (e : PatternError) : String :=
  let places := (e.place :: e.earlier.toList).map fun p ↦
    (coordinates pattern p.start, coordinates pattern p.stop)
  let shown := notes pattern places
  let head := "regex parse error:\n"
  if pattern.contains '\n' then
    let divider := "".pushn '~' 79 ++ "\n"
    let far := (places.filter fun (a, b) ↦ a.1 ≠ b.1).map fun (a, b) ↦
      s!"on line {a.1} (column {a.2}) through line {b.1} (column {b.2 - 1})"
    let far := if far.isEmpty then "" else String.intercalate "\n" far ++ "\n"
    head ++ divider ++ shown ++ divider ++ far ++ s!"error: {e.fault.message}"
  else head ++ shown ++ s!"error: {e.fault.message}"

end PatternError

end LiteralPatch
