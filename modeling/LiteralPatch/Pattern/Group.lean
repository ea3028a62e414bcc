import LiteralPatch.Pattern.Reader
import LiteralPatch.Text.Letter

namespace LiteralPatch

namespace PatternReader

abbrev FlagItem := Option PatternFlag

def withItems (flags : List PatternFlag) (items : List FlagItem) : List PatternFlag :=
  let on := (items.takeWhile Option.isSome).filterMap id
  let off := (items.dropWhile Option.isSome).filterMap id
  (flags ++ on.filter fun f ↦ !flags.contains f).filter fun f ↦ !off.contains f

/-- Reads at most `n` items up to a colon or a parenthesis. The items so far come with their places
and the last first. -/
def readItems : Nat → List (FlagItem × Nat) → ReadPattern (List FlagItem)
  | 0, _ => do fail .flagUnexpectedEnd (← place) (← place)
  | n + 1, items => do
    let here ← place
    match ← peek? with
    | none => fail .flagUnexpectedEnd here here
    | some c =>
      if c = ':' || c = ')' then
        match items with
        | (none, sign) :: _ => fail .flagDanglingNegation sign (sign + 1)
        | _ => return (items.map Prod.fst).reverse
      else
        let item ← if c = '-' then pure none else
          match PatternFlag.ofLetter? c with
          | some f => pure (some f)
          | none => fail .flagUnrecognized here (here + 1)
        match items.find? (·.1 = item) with
        | some (_, earlier) =>
          let fault := if item.isNone then .flagRepeatedNegation else .flagDuplicate
          throw ⟨fault, ⟨here, here + 1⟩, some ⟨earlier, earlier + 1⟩⟩
        | none =>
          bump
          readItems n ((item, here) :: items)

def isNameStart (c : Char) : Bool :=
  c == '_' || Text.isLetter c

def isNamePart (c : Char) : Bool :=
  isNameStart c || c == '.' || c == '[' || c == ']' || Text.isNumber c

def firstBad? : Text → Option Nat
  | [] => none
  | c :: s => if !isNameStart c then some 0 else (s.findIdx? fun d ↦ !isNamePart d).map (· + 1)

def readName : ReadPattern Unit := do
  let r ← get
  let name := r.rest.takeWhile (· != '>')
  let stop := r.pos + name.length
  let here : Stretch := ⟨r.pos, stop⟩
  match firstBad? name with
  | some i => fail .groupNameInvalid (r.pos + i) (r.pos + i + 1)
  | none =>
    if (r.rest.drop name.length).isEmpty then fail .groupNameUnexpectedEnd stop stop
    if name = [] then fail .groupNameEmpty stop stop
    match r.names.lookup name with
    | some earlier => throw ⟨.groupNameDuplicate, here, some earlier⟩
    | none =>
      modify fun r ↦ { r with names := (name, here) :: r.names }
      skip (name.length + 1)

structure GroupOpening where
  flags : List PatternFlag
  hasContent : Bool := true
  number : Option Nat := none

def numbered : ReadPattern GroupOpening := do
  modify fun r ↦ { r with groups := r.groups + 1 }
  return { flags := (← get).flags, number := (← get).groups }

def readGroupOpening : ReadPattern GroupOpening := do
  let start ← place
  let flags := (← get).flags
  bumpSpace
  let inner ← place
  if ← takeOne? ["?=", "?!", "?<=", "?<!"] then fail .lookAround start (← place)
  if ← takeOne? ["?P<", "?<"] then
    readName
    return ← numbered
  if !(← take? "?") then return ← numbered
  if (← peek?).isNone then fail .groupUnclosed start (start + 1)
  let items ← readItems ((← get).length + 1) []
  let close ← peek?
  bump
  if close = some ')' && items = [] then fail .repetitionMissing inner inner
  return { flags := withItems flags items, hasContent := close ≠ some ')' }

end PatternReader

end LiteralPatch
