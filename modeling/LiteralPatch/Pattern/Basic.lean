import LiteralPatch.Text.CharSet

namespace LiteralPatch

inductive WordEdge
  | boundary
  | inside
  | start
  | stop
  | startHalf
  | stopHalf
  deriving DecidableEq, Repr

inductive Assertion
  | textStart
  | textEnd
  | lineStart (crlf : Bool)
  | lineEnd (crlf : Bool)
  | word (edge : WordEdge) (words : CharSet)
  deriving DecidableEq, Repr

namespace Assertion

def holds (before after : Option Char) : Assertion → Bool
  | textStart => before.isNone
  | textEnd => after.isNone
  | lineStart false => before.isNone || before = some '\n'
  | lineEnd false => after.isNone || after = some '\n'
  | lineStart true =>
    before.isNone || before = some '\n' || (before = some '\r' && after != some '\n')
  | lineEnd true =>
    after.isNone || after = some '\r' || (after = some '\n' && before != some '\r')
  | word edge words =>
    let b := before.any words.mem
    let a := after.any words.mem
    match edge with
    | .boundary => b != a
    | .inside => b == a
    | .start => !b && a
    | .stop => b && !a
    | .startHalf => !b
    | .stopHalf => !a

end Assertion

inductive Pattern
  | empty
  | literal (s : Text)
  | one (s : CharSet)
  | assertion (a : Assertion)
  | group (n : Nat) (p : Pattern)
  | seq (p q : Pattern)
  | alt (p q : Pattern)
  /-- A lazy repetition prefers fewer rounds, which never matters to whether there is a match. -/
  | times (p : Pattern) (least : Nat) (most : Option Nat) (isLazy : Bool)
  deriving DecidableEq, Repr

namespace Pattern

def parts : Pattern → List Pattern
  | empty => []
  | seq p q => p :: parts q
  | p => [p]

def alternatives : Pattern → List Pattern
  | alt p q => p :: alternatives q
  | p => [p]

def ofParts : List Pattern → Pattern
  | [] => empty
  | [p] => p
  | p :: ps => seq p (ofParts ps)

/-- No alternative at all is what never matches. -/
def ofAlternatives : List Pattern → Pattern
  | [] => one .empty
  | [p] => p
  | p :: ps => alt p (ofAlternatives ps)

/-- The least number of characters taken, up to the difference between one and more; none if there
is no way to match. -/
def shortest : Pattern → Option Nat
  | empty | assertion _ => some 0
  | literal _ => some 1
  | one s => if s.ranges.isEmpty then none else some 1
  | group _ p => p.shortest
  | seq p q => do return max (← p.shortest) (← q.shortest)
  | alt p q => do return min (← p.shortest) (← q.shortest)
  | times p least _ _ => do return min least (← p.shortest)

def isStill : Pattern → Bool
  | empty | assertion _ => true
  | literal _ | one _ => false
  | group _ p => p.isStill
  | seq p q | alt p q => p.isStill && q.isStill
  | times p _ most _ => most.isSome && p.isStill

def isAtStart : Pattern → Bool
  | assertion a => a = .textStart
  | empty | literal _ | one _ => false
  | group _ p => p.isAtStart
  | seq p q => p.isAtStart || (p.isStill && q.isAtStart)
  | alt p q => p.isAtStart && q.isAtStart
  | times p least _ _ => 0 < least && p.isAtStart

def isAtEnd : Pattern → Bool
  | assertion a => a = .textEnd
  | empty | literal _ | one _ => false
  | group _ p => p.isAtEnd
  | seq p q => q.isAtEnd || (q.isStill && p.isAtEnd)
  | alt p q => p.isAtEnd && q.isAtEnd
  | times p least _ _ => 0 < least && p.isAtEnd

def size : Pattern → Nat
  | empty | literal _ | one _ | assertion _ => 1
  | group _ p | times p _ _ _ => p.size + 1
  | seq p q | alt p q => p.size + q.size + 1

end Pattern

end LiteralPatch
