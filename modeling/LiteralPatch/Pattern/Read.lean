import LiteralPatch.Pattern.Bracket
import LiteralPatch.Pattern.Group

namespace LiteralPatch

namespace PatternReader

/-- A part of a sequence; a setting of flags is a part without a pattern, and cannot be repeated. -/
structure Part where
  start : Nat
  pattern : Option Pattern
  outline : Outline := []

structure Branches where
  start : Nat
  finished : List (Pattern × Outline) := []
  last : Nat
  parts : List Part := []

namespace Branches

def none (start : Nat) : Branches := { start, last := start }

def add (part : Part) (b : Branches) : Branches := { b with parts := part :: b.parts }

def sequence (stop : Nat) (b : Branches) : Pattern × Outline :=
  let outline := b.parts.foldr (fun part (o : Outline) ↦ o.beside part.outline) []
  (.sequence (b.parts.filterMap Part.pattern).reverse,
    if b.parts.length < 2 then outline else .around ⟨b.last, stop⟩ outline)

def split (sign : Nat) (b : Branches) : Branches :=
  { b with finished := b.sequence sign :: b.finished, last := sign + 1, parts := [] }

def all (stop : Nat) (b : Branches) : Pattern × Outline :=
  match b.finished with
  | [] => b.sequence stop
  | finished =>
    let branches := b.sequence stop :: finished
    let outline := branches.foldr (fun branch (o : Outline) ↦ o.beside branch.2) []
    (.anyOf (branches.map Prod.fst).reverse, .around ⟨b.start, stop⟩ outline)

def repeatable (here : Nat) (b : Branches) : ReadPattern (Part × Pattern × Branches) :=
  match b.parts with
  | part :: parts =>
    match part.pattern with
    | some p => return (part, p, { b with parts })
    | Option.none => fail .repetitionMissing here here
  | [] => fail .repetitionMissing here here

end Branches

def addRepeated (part : Part) (p : Pattern) (least : Nat) (most : Option Nat) (b : Branches) :
    ReadPattern Branches := do
  let marked ← take? "?"
  let isLazy := marked != (← has .swapGreed)
  let outline := .around ⟨part.start, ← place⟩ part.outline
  return b.add ⟨part.start, some (p.repeated least most isLazy), outline⟩

def readSign (least : Nat) (most : Option Nat) (b : Branches) : ReadPattern Branches := do
  let (part, p, b) ← b.repeatable (← place)
  bump
  addRepeated part p least most b

/-- Reads a number of 32 bits between blanks. What is wrong with it may not matter. -/
def readNumber : ReadPattern (Except PatternError Nat) := do
  skip ((← get).rest.takeWhile Text.isBlank).length
  let start ← place
  let digits ← readWhile Char.isDigit
  let here : Stretch := ⟨start, ← place⟩
  let _ ← readWhile Text.isBlank
  let n := digits.foldl (fun n c ↦ 10 * n + (c.toNat - '0'.toNat)) 0
  if digits = [] then return .error ⟨.countEmpty, here, none⟩
  else if 0x100000000 ≤ n then return .error ⟨.decimalInvalid, here, none⟩
  else return .ok n

def readBounds (start : Nat) : ReadPattern (Nat × Option Nat) := do
  let first ← readNumber
  match ← peek? with
  | none => fail .countUnclosed start (← place)
  | some ',' =>
    bumpSpace
    match ← peek? with
    | none => fail .countUnclosed start (← place)
    | some '\x7d' => return (← first, none)
    | some _ =>
      let least ← first
      return (least, some (← ← readNumber))
  | some _ =>
    let n ← first
    return (n, some n)

def readCount (b : Branches) : ReadPattern Branches := do
  let start ← place
  let (part, p, b) ← b.repeatable start
  bumpSpace
  if (← peek?).isNone then fail .countUnclosed start (← place)
  let (least, most) ← readBounds start
  if (← peek?) ≠ some '\x7d' then fail .countUnclosed start (← place)
  bumpSpace
  let b ← addRepeated part p least most b
  if most.any (· < least) then fail .countInvalid start (← place)
  return b

def readLiteral (c : Char) (asByte : Bool) (place : Stretch) : ReadPattern Pattern := do
  let unicode ← has .unicode
  if asByte && 0x80 ≤ c.toNat && !unicode then defer .invalidUtf8 place
  if 0x80 ≤ c.toNat && !unicode then return .ofChar c
  if ← has .ignoreCase then return .ofSet ((CharSet.one c).folded (← get).flags)
  return .ofChar c

def readPart (c : Char) : ReadPattern Pattern := do
  let start ← place
  let crlf ← has .crlf
  let lines ← has .multiLine
  match c with
  | '.' =>
    bump
    if !(← has .unicode) then defer .invalidUtf8 ⟨start, start + 1⟩
    let lineFeed := CharSet.one '\n'
    if ← has .dotAll then return .ofSet .any
    else return .ofSet (if crlf then .union lineFeed (.one '\r') else lineFeed).compl
  | '^' =>
    bump
    return .assertion (if lines then .lineStart crlf else .textStart)
  | '$' =>
    bump
    return .assertion (if lines then .lineEnd crlf else .textEnd)
  | _ =>
    let (atom, place) ← readAtom c
    match atom with
    | .literal c asByte => readLiteral c asByte place
    | .members s => return .ofSet s
    | .assertion a => return .assertion a

structure OpenGroup where
  start : Nat
  number : Option Nat
  flags : List PatternFlag
  outer : Branches

def OpenGroup.close (g : OpenGroup) (body : Pattern × Outline) : ReadPattern Branches := do
  modify fun r ↦ { r with flags := g.flags }
  let p := match g.number with
    | some n => .group n body.1
    | none => body.1
  return g.outer.add ⟨g.start, some p, .around ⟨g.start, ← place⟩ body.2⟩

/-- Reads to the end of the pattern. The open groups come with the last first. -/
def readBody : Nat → List OpenGroup → Branches → ReadPattern (Pattern × Outline)
  | 0, _, b => return b.all (← place)
  | n + 1, opened, b => do
    skipSpace
    let here ← place
    match ← peek? with
    | none =>
      match opened with
      | g :: _ => fail .groupUnclosed g.start (g.start + 1)
      | [] => return b.all here
    | some '(' =>
      let outer := (← get).flags
      let opening ← readGroupOpening
      modify fun r ↦ { r with flags := opening.flags }
      if opening.hasContent then
        readBody n (⟨here, opening.number, outer, b⟩ :: opened) (.none (← place))
      else readBody n opened (b.add ⟨here, none, []⟩)
    | some ')' =>
      match opened with
      | [] => fail .groupUnopened here (here + 1)
      | g :: opened =>
        bump
        readBody n opened (← g.close (b.all here))
    | some '|' =>
      bump
      readBody n opened (b.split here)
    | some '[' =>
      let (s, outline) ← readBracket
      readBody n opened (b.add ⟨here, some (.ofSet s), outline⟩)
    | some '?' => readBody n opened (← readSign 0 (some 1) b)
    | some '*' => readBody n opened (← readSign 0 none b)
    | some '+' => readBody n opened (← readSign 1 none b)
    | some '\x7b' => readBody n opened (← readCount b)
    | some c => readBody n opened (b.add ⟨here, some (← readPart c), []⟩)

end PatternReader

/-- Every part takes a character at least, so reading ends before its steps run out. Parts that are
too deep count before faults of meaning. -/
def Pattern.read (s : Text) : Except PatternError Pattern :=
  let reader : PatternReader := { rest := s, length := s.length }
  match (PatternReader.readBody (s.length + 1) [] (.none 0)).run reader with
  | .error e => .error e
  | .ok ((p, outline), r) =>
    match outline.tooDeep? with
    | some place => .error ⟨.tooNested, place, none⟩
    | none =>
      match r.deferred with
      | some e => .error e
      | none => .ok p

end LiteralPatch
