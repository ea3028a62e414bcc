import LiteralPatch.Pattern.Build
import LiteralPatch.Pattern.Error
import LiteralPatch.Text.Blank

namespace LiteralPatch

inductive PatternFlag
  | ignoreCase
  | multiLine
  | dotAll
  | swapGreed
  | unicode
  | crlf
  | ignoreSpace
  deriving DecidableEq, Repr

def PatternFlag.ofLetter? : Char → Option PatternFlag
  | 'i' => some .ignoreCase
  | 'm' => some .multiLine
  | 's' => some .dotAll
  | 'U' => some .swapGreed
  | 'u' => some .unicode
  | 'R' => some .crlf
  | 'x' => some .ignoreSpace
  | _ => none

structure PatternReader where
  rest : Text
  length : Nat
  pos : Nat := 0
  flags : List PatternFlag := [.unicode]
  groups : Nat := 0
  names : List (Text × Stretch) := []
  deferred : Option PatternError := none
  deriving DecidableEq, Repr

abbrev ReadPattern := StateT PatternReader (Except PatternError)

/-- The place of the first part at every depth of something that was read, from its own on; plain
characters and sets without brackets do not count. -/
abbrev Outline := List Stretch

namespace Outline

def beside (a b : Outline) : Outline := if b.length ≤ a.length then a else a ++ b.drop a.length

/-- The outline of something around others. What is deeper than the limit by more than one does not
matter. -/
def around (place : Stretch) (inner : Outline) : Outline := (place :: inner).take (nestingLimit + 1)

def tooDeep? (o : Outline) : Option Stretch := o[nestingLimit]?

end Outline

namespace PatternReader

def fail {α : Type} (fault : PatternFault) (start stop : Nat) : ReadPattern α :=
  throw ⟨fault, ⟨start, stop⟩, none⟩

def defer (fault : PatternFault) (place : Stretch) : ReadPattern Unit :=
  modify fun r ↦ { r with deferred := r.deferred <|> some ⟨fault, place, none⟩ }

def place : ReadPattern Nat := return (← get).pos

def peek? : ReadPattern (Option Char) := return (← get).rest.head?

def has (f : PatternFlag) : ReadPattern Bool := return (← get).flags.contains f

def skip (n : Nat) : ReadPattern Unit :=
  modify fun r ↦ { r with rest := r.rest.drop n, pos := r.pos + (r.rest.take n).length }

def bump : ReadPattern Unit := skip 1

def spaceLength (inComment : Bool) : Text → Nat
  | [] => 0
  | c :: s =>
    if inComment then spaceLength (c ≠ '\n') s + 1
    else if c = '#' then spaceLength true s + 1
    else if Text.isBlank c then spaceLength false s + 1
    else 0

def skipSpace : ReadPattern Unit := do
  if ← has .ignoreSpace then skip (spaceLength false (← get).rest)

def bumpSpace : ReadPattern Unit := do
  bump
  skipSpace

def peekSecond? : ReadPattern (Option Char) := do
  let after := (← get).rest.drop 1
  if ← has .ignoreSpace then
    match after.dropWhile Text.isBlank with
    | '#' :: s => return (s.dropWhile Text.isBlank).head?
    | s => return s.head?
  else return after.head?

def take? (opening : String) : ReadPattern Bool := do
  if opening.toList.isPrefixOf (← get).rest then
    skip opening.length
    return true
  else return false

def takeOne? : List String → ReadPattern Bool
  | [] => return false
  | opening :: more => do
    if ← take? opening then return true else takeOne? more

def readUpTo (p : Char → Bool) : Nat → ReadPattern Text
  | 0 => return []
  | n + 1 => do
    match ← peek? with
    | none => return []
    | some c =>
      if p c then
        bumpSpace
        return c :: (← readUpTo p n)
      else return []

def readWhile (p : Char → Bool) : ReadPattern Text := do readUpTo p (← get).length

end PatternReader

end LiteralPatch
