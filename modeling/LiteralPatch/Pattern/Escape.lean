import LiteralPatch.Pattern.Reader
import LiteralPatch.Text.AsciiClass
import LiteralPatch.Text.Case
import LiteralPatch.Text.Property.Name

namespace LiteralPatch

inductive Atom
  | literal (c : Char) (asByte : Bool)
  | members (s : CharSet)
  | assertion (a : Assertion)
  deriving DecidableEq, Repr

namespace CharSet

def folded (flags : List PatternFlag) (s : CharSet) : CharSet :=
  if !flags.contains .ignoreCase then s
  else if flags.contains .unicode then s.caseless
  else inter s.caseless ascii

end CharSet

namespace PatternReader

def hexValue? (c : Char) : Option Nat :=
  if c.isDigit then some (c.toNat - '0'.toNat)
  else if 'a' ≤ c && c ≤ 'f' then some (c.toNat - 'a'.toNat + 10)
  else if 'A' ≤ c && c ≤ 'F' then some (c.toNat - 'A'.toNat + 10)
  else none

def isHex (c : Char) : Bool := (hexValue? c).isSome

def charOfHex? (digits : Text) : Option Char :=
  let n := digits.foldl (fun n c ↦ 16 * n + (hexValue? c).getD 0) 0
  if n.isValidChar then some (Char.ofNat n) else none

def hexChar (digits : Text) (start stop : Nat) : ReadPattern Char :=
  match charOfHex? digits with
  | some c => return c
  | none => fail .escapeHexInvalid start stop

def readHexDigits : Nat → ReadPattern Text
  | 0 => return []
  | n + 1 => do
    let here ← place
    match ← peek? with
    | none => fail .escapeUnexpectedEnd here here
    | some c =>
      if isHex c then
        bumpSpace
        return c :: (← readHexDigits n)
      else fail .escapeHexInvalidDigit here (here + 1)

def readHex (width : Nat) : ReadPattern Atom := do
  bumpSpace
  let start ← place
  if (← peek?) = some '\x7b' then
    bumpSpace
    let digits ← readWhile isHex
    let stop ← place
    match ← peek? with
    | none => fail .escapeUnexpectedEnd start stop
    | some '\x7d' =>
      bumpSpace
      if digits = [] then fail .escapeHexEmpty start (← place)
      else return .literal (← hexChar digits (start + 1) stop) false
    | some _ => fail .escapeHexInvalidDigit stop (stop + 1)
  else
    let digits ← readHexDigits width
    return .literal (← hexChar digits start (← place)) (width = 2)

def readPropertyName : ReadPattern Text := do
  bumpSpace
  let here ← place
  match ← peek? with
  | none => fail .escapeUnexpectedEnd here here
  | some '\\' => fail .propertyNameInvalid here (here + 1)
  | some '\x7b' =>
    bumpSpace
    let name ← readWhile (· != '\x7d')
    let stop ← place
    if (← peek?).isNone then fail .escapeUnexpectedEnd stop stop
    bump
    return name
  | some c =>
    bumpSpace
    return [c]

def readProperty (start : Nat) (negated : Bool) : ReadPattern Atom := do
  let name ← readPropertyName
  let here : Stretch := ⟨start, ← place⟩
  let (set, isOther) ← if ← has .unicode then
      match Property.read name with
      | .ok found => pure found
      | .error fault =>
        let fault := match fault with
          | .unknownName => PatternFault.propertyNotFound
          | .unknownValue => .propertyValueNotFound
        defer fault here
        pure (.any, false)
    else
      defer .unicodeNotAllowed here
      pure (.any, false)
  let set := set.folded (← get).flags
  return .members (if negated != isOther then set.compl else set)

def asciiSet (name : String) : CharSet := (CharSet.ascii? name).getD .empty

def words : ReadPattern CharSet := return if ← has .unicode then .word else asciiSet "word"

def readShorthand (start : Nat) (c : Char) : ReadPattern Atom := do
  bump
  let unicode ← has .unicode
  let set ← match c.toLower with
    | 'd' => pure (if unicode then .digit else asciiSet "digit")
    | 's' => pure (if unicode then .blank else asciiSet "space")
    | _ => words
  if c.isUpper then
    if !unicode then defer .invalidUtf8 ⟨start, start + 2⟩
    return .members set.compl
  else return .members set

def isEdgeLetter (c : Char) : Bool := c.isAlpha || c == '-'

/-- The edge that braces after `\b` name. Braces that do not begin with a letter are a count, and
are left to it. -/
def readEdge (start : Nat) : ReadPattern WordEdge := do
  let before ← get
  if before.rest.head? ≠ some '\x7b' then return .boundary
  bumpSpace
  let first ← place
  match ← peek? with
  | none => fail .wordBoundaryOrCountUnclosed start first
  | some c =>
    if !isEdgeLetter c then
      set before
      return .boundary
    let name ← readWhile isEdgeLetter
    let stop ← place
    if (← peek?) ≠ some '\x7d' then fail .wordBoundaryUnclosed before.pos stop
    bump
    match String.ofList name with
    | "start" => return .start
    | "end" => return .stop
    | "start-half" => return .startHalf
    | "end-half" => return .stopHalf
    | _ => fail .wordBoundaryUnrecognized first stop

/-- Whether a backslash keeps a character as it is: all of ASCII but letters, digits and the two
signs that are edges of words. -/
def isKept (c : Char) : Bool := c.toNat < 0x80 && !c.isAlphanum && c != '<' && c != '>'

def readOneLetter (start : Nat) (c : Char) : ReadPattern Atom := do
  bump
  let literal (c : Char) : ReadPattern Atom := pure (.literal c false)
  match c with
  | 'a' => literal '\x07'
  | 'f' => literal '\x0c'
  | 't' => literal '\t'
  | 'n' => literal '\n'
  | 'r' => literal '\r'
  | 'v' => literal '\x0b'
  | 'A' => return .assertion .textStart
  | 'z' => return .assertion .textEnd
  | 'b' => return .assertion (.word (← readEdge start) (← words))
  | 'B' => return .assertion (.word .inside (← words))
  | '<' => return .assertion (.word .start (← words))
  | '>' => return .assertion (.word .stop (← words))
  | _ => if isKept c then literal c else fail .escapeUnrecognized start (start + 2)

def readEscape : ReadPattern (Atom × Stretch) := do
  let start ← place
  bump
  let atom ← match ← peek? with
    | none => fail .escapeUnexpectedEnd start (start + 1)
    | some 'x' => readHex 2
    | some 'u' => readHex 4
    | some 'U' => readHex 8
    | some 'p' => readProperty start false
    | some 'P' => readProperty start true
    | some c =>
      if c.isDigit then fail .backreference start (start + 2)
      else if "dDsSwW".toList.contains c then readShorthand start c
      else readOneLetter start c
  return (atom, ⟨start, ← place⟩)

end PatternReader

end LiteralPatch
