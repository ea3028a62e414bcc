import LiteralPatch.Pattern.Escape

namespace LiteralPatch

namespace PatternReader

structure Operand where
  set : CharSet
  place : Stretch
  outline : Outline

structure Members where
  sets : List CharSet := []
  place : Stretch
  outline : Outline := []

def Members.none (start : Nat) : Members := { place := ⟨start, start⟩ }

def Members.add (set : CharSet) (place : Stretch) (outline : Outline) (ms : Members) : Members :=
  let start := if ms.sets.isEmpty then place.start else ms.place.start
  ⟨set :: ms.sets, ⟨start, place.stop⟩, ms.outline.beside outline⟩

def Members.operand (ms : Members) : Operand :=
  let outline := if ms.sets.length < 2 then ms.outline else .around ms.place ms.outline
  ⟨.unions ms.sets, ms.place, outline⟩

structure OpenSet where
  opening : Stretch
  negated : Bool
  finish : Operand → Operand := id
  members : Members

def readDashes : Nat → Members → ReadPattern Members
  | 0, ms => return ms
  | n + 1, ms => do
    let here ← place
    if (← peek?) = some '-' then
      bumpSpace
      readDashes n (ms.add (.one '-') ⟨here, here + 1⟩ [])
    else return ms

/-- Reads an opening bracket and what belongs to it: a caret, and dashes or a closing bracket, which
stand for themselves here. -/
def readOpening : ReadPattern OpenSet := do
  let start ← place
  bumpSpace
  if (← peek?).isNone then fail .classUnclosed start (← place)
  let negated := (← peek?) = some '^'
  if negated then bumpSpace
  if (← peek?).isNone then fail .classUnclosed start (← place)
  let dashes ← readDashes (← get).length (.none (← place))
  let here ← place
  match ← peek? with
  | none => fail .classUnclosed start start
  | some c =>
    if dashes.sets.isEmpty && c = ']' then
      bumpSpace
      if (← peek?).isNone then fail .classUnclosed start (← place)
      let members := dashes.add (.one ']') ⟨here, here + 1⟩ []
      return { opening := ⟨start, ← place⟩, negated, members }
    else return { opening := ⟨start, here⟩, negated, members := dashes }

/-- Case comes before negation. A negated set of bytes would go beyond ASCII. -/
def closeSet (place : Stretch) (negated : Bool) (s : CharSet) : ReadPattern CharSet := do
  let s := s.folded (← get).flags
  if negated then
    if !(← has .unicode) then defer .invalidUtf8 place
    return s.compl
  else return s

def readNamed? : ReadPattern (Option CharSet) := do
  let r ← get
  let some s := Text.strip? ['[', ':'] r.rest | return none
  let negated : Bool := s.head? = some '^'
  let s := if negated then s.drop 1 else s
  let name := s.takeWhile (· != ':')
  if !([':', ']'] : Text).isPrefixOf (s.drop name.length) then return none
  let some set := CharSet.ascii? (String.ofList name) | return none
  skip (name.length + if negated then 5 else 4)
  return some (← closeSet ⟨r.pos, ← place⟩ negated set)

def readAtom (c : Char) : ReadPattern (Atom × Stretch) := do
  if c = '\\' then readEscape
  else
    let start ← place
    bump
    return (.literal c false, ⟨start, start + 1⟩)

def checkMember (c : Char) (asByte : Bool) (place : Stretch) : ReadPattern Unit := do
  if 0x80 ≤ c.toNat && !(← has .unicode) then
    defer (if asByte then .invalidUtf8 else .unicodeNotAllowed) place

def readMember (opening : Stretch) (c : Char) : ReadPattern (CharSet × Stretch) := do
  let (first, place) ← readAtom c
  skipSpace
  match ← peek? with
  | none => fail .classUnclosed opening.start opening.stop
  | some sign =>
    let next ← peekSecond?
    if sign ≠ '-' || next = some ']' || next = some '-' then
      match first with
      | .literal c asByte =>
        checkMember c asByte place
        return (.one c, place)
      | .members s => return (s, place)
      | .assertion _ => fail .classEscapeInvalid place.start place.stop
    else
      bumpSpace
      match ← peek? with
      | none => fail .classUnclosed opening.start opening.stop
      | some d =>
        let (last, lastPlace) ← readAtom d
        match first, last with
        | .literal a aByte, .literal b bByte =>
          if b < a then fail .classRangeInvalid place.start lastPlace.stop
          checkMember a aByte place
          checkMember b bByte lastPlace
          return (.range a b, ⟨place.start, lastPlace.stop⟩)
        | .literal _ _, _ => fail .classRangeLiteral lastPlace.start lastPlace.stop
        | _, _ => fail .classRangeLiteral place.start place.stop

def operation (op : CharSet → CharSet → CharSet) (flags : List PatternFlag) (left right : Operand) :
    Operand :=
  let place : Stretch := ⟨left.place.start, right.place.stop⟩
  ⟨op (left.set.folded flags) (right.set.folded flags), place,
    .around place (left.outline.beside right.outline)⟩

/-- Goes on after an operation: what comes next is its right side. -/
def OpenSet.operate (op : CharSet → CharSet → CharSet) (s : OpenSet) : ReadPattern OpenSet := do
  skip 2
  let left := s.finish s.members.operand
  return { s with
    finish := operation op (← get).flags left
    members := .none (← place) }

def OpenSet.add (set : CharSet) (place : Stretch) (outline : Outline) (s : OpenSet) : OpenSet :=
  { s with members := s.members.add set place outline }

def OpenSet.close (s : OpenSet) : ReadPattern (CharSet × Stretch × Outline) := do
  let all := s.finish s.members.operand
  let place : Stretch := ⟨s.opening.start, ← place⟩
  return (← closeSet place s.negated all.set, place, .around place all.outline)

def readMembers : Nat → List OpenSet → OpenSet → ReadPattern (CharSet × Outline)
  | 0, _, s => fail .classUnclosed s.opening.start s.opening.stop
  | n + 1, outer, s => do
    skipSpace
    let here ← place
    match (← get).rest with
    | [] => fail .classUnclosed s.opening.start s.opening.stop
    | '[' :: _ =>
      match ← readNamed? with
      | some set => readMembers n outer (s.add set ⟨here, ← place⟩ [])
      | none => readMembers n (s :: outer) (← readOpening)
    | ']' :: _ =>
      bump
      let (set, place, outline) ← s.close
      match outer with
      | [] => return (set, outline)
      | s :: outer => readMembers n outer (s.add set place outline)
    | '&' :: '&' :: _ => readMembers n outer (← s.operate .inter)
    | '-' :: '-' :: _ => readMembers n outer (← s.operate .diff)
    | '~' :: '~' :: _ => readMembers n outer (← s.operate .symmDiff)
    | c :: _ =>
      let (set, place) ← readMember s.opening c
      readMembers n outer (s.add set place [])

def readBracket : ReadPattern (CharSet × Outline) := do
  let opening ← readOpening
  readMembers ((← get).length + 1) [] opening

end PatternReader

end LiteralPatch
