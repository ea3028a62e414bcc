import LiteralPatch.Pattern.Basic
import LiteralPatch.Pattern.Machine

namespace LiteralPatch

namespace Machine

def again (build : Machine → Option Machine) : Nat → Machine → Option Machine
  | 0, m => some m
  | n + 1, m => do
    let next ← build m
    again build n (← m.leadOn next)

def exactly (build : Machine → Option Machine) : Nat → Machine → Option Machine
  | 0, m => m.addState
  | n + 1, m => do again build n (← build m)

def optional (build : Machine → Option Machine) (m : Machine) : Option Machine := do
  (← build (← m.addState)).addWays 2

def atLeast (build : Machine → Option Machine) (moves : Bool) : Nat → Machine → Option Machine
  | 0, m => do
    if moves then
      let body ← build (← m.addState)
      return (← body.leadOn (← body.addWays 1)).endInFork
    else
      let body ← build m
      body.leadOn (← (← body.addStates 3 0).addWays 4)
  | 1, m => do
    let body ← build m
    return (← body.leadOn (← (← body.addState).addWays 1)).endInFork
  | n + 2, m => do
    let start ← exactly build (n + 1) m
    let body ← build start
    let m ← body.leadOn (← (← body.addState).addWays 1)
    return (← start.leadOn m).endInFork

def between (build : Machine → Option Machine) (least more : Nat) (m : Machine) :
    Option Machine := do
  let start ← exactly build least m
  let m ← start.addState
  let m ← again (optional build) more { m with endsInFork := start.endsInFork }
  return { ← m.leadOn m with endsInFork := false }

def closeBranch (before : Nat) (m : Machine) : Option Machine := do
  let forked ← if before = 1 then m.addStates 2 0 else some m
  m.leadOn (← forked.addWays 1)

end Machine

namespace Pattern

def word? : Pattern → Option Bytes
  | literal s => some (Utf8.encode s)
  | _ => none

def isAlternation : Pattern → Bool
  | alt _ _ => true
  | _ => false

/-- Builds a pattern, which may be the rest of an alternation with some branches before it. -/
def build (backwards : Bool) : Pattern → Nat → Machine → Option Machine
  | empty, _, m | assertion _, _, m => m.addState
  | literal s, _, m => m.addStates (Utf8.size s) 0
  | one s, _, m => do
    if s.isAscii then (← m.addState).addTransitions s.ranges.length
    else if backwards then m.addSetBackwards s.byteSequences
    else m.addSet s.byteSequences
  | group _ p, _, m => do
    if backwards then build backwards p 0 m
    else
      let body ← build backwards p 0 (← m.addState)
      body.leadOn (← body.addState)
  | seq p q, _, m => do
    if backwards then
      let start ← build backwards q 0 m
      start.leadOn (← build backwards p 0 start)
    else
      let start ← build backwards p 0 m
      start.leadOn (← build backwards q 0 start)
  | alt p q, before, m => do
    match if before = 0 then (alternatives (alt p q)).mapM word? else none with
    | some words =>
      m.addWords (if backwards then words.map List.reverse else words)
    | none =>
      let m ← (← build backwards p 0 m).closeBranch before
      let m ←
        if q.isAlternation then build backwards q (before + 1) m
        else (← build backwards q 0 m).closeBranch (before + 1)
      return { m with endsInFork := false }
  | times p least none _, _, m =>
    m.atLeast (build backwards p 0) (p.shortest.any (0 < ·)) least
  | times p least (some most) _, _, m => do
    if least = 0 ∧ most = 1 then
      let body ← m.optional (build backwards p 0)
      body.leadOn (← body.addState)
    else if least = most then m.exactly (build backwards p 0) least
    else m.between (build backwards p 0) least (most - least)

/-- The whole machine: any bytes to skip, unless a match has to begin where reading begins, then the
pattern, and a state for a match. -/
def machine (backwards : Bool) (p : Pattern) : Option Machine := do
  let isAnchored := if backwards then p.isAtEnd else p.isAtStart
  let m ←
    if isAnchored then Machine.addState {}
    else
      let skipped ← (← Machine.addStates 2 0 {}).addTransitions 1
      pure (← skipped.addWays 1).endInFork
  let body ← build backwards (if backwards then p else .group 0 p) 0 m
  m.leadOn (← body.leadOn (← body.addState))

def isTooLarge (p : Pattern) : Bool := (p.machine false).isNone || (p.machine true).isNone

end Pattern

end LiteralPatch
