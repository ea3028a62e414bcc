import LiteralPatch.Text.ByteRange
import Std.Data.HashMap

namespace LiteralPatch

/-- How large the machine for a pattern is, which is given up where it would grow beyond its
limit. -/
structure Machine where
  states : Nat := 0
  room : Nat := 0
  /-- Whether the part built last ends in a fork, which every way on is added to. -/
  endsInFork : Bool := false
  deriving DecidableEq, Repr

namespace Machine

def sizeLimit : Nat := 10485760

def grow (room : Nat) (m : Machine) : Option Machine :=
  if sizeLimit < m.room + room then none else some { m with room := m.room + room }

def addStates (n room : Nat) (m : Machine) : Option Machine := do
  let m ← m.grow (32 * n + room)
  return { m with states := m.states + n, endsInFork := false }

def addState (m : Machine) : Option Machine := m.addStates 1 0

def addTransitions (n : Nat) (m : Machine) : Option Machine := m.addStates 1 (8 * n)

def addWays (n : Nat) (m : Machine) : Option Machine := m.grow (4 * n)

def leadOn (earlier m : Machine) : Option Machine := if earlier.endsInFork then m.addWays 1 else m

def endInFork (m : Machine) : Machine := { m with endsInFork := true }

structure Transition where
  bytes : ByteRange
  target : Nat
  deriving DecidableEq

def hash (ns : List Nat) : Nat :=
  (ns.foldl (fun (h : UInt64) n ↦ (h ^^^ n.toUInt64) * 1099511628211) 14695981039346656037).toNat

structure OpenState where
  transitions : List Transition := []
  last : Option ByteRange := none

def OpenState.close (target : Nat) (s : OpenState) : OpenState :=
  match s.last with
  | some bytes => ⟨s.transitions ++ [⟨bytes, target⟩], none⟩
  | none => s

/-- The states of a set so far. A state is found again by its transitions, unless one with the same
hash came between. -/
structure SetStates where
  machine : Machine
  known : Std.HashMap Nat (List Transition × Nat) := ∅

def SetStates.find (transitions : List Transition) (b : SetStates) : Option (Nat × SetStates) := do
  let slot := hash (transitions.flatMap fun t ↦ [t.bytes.1, t.bytes.2, t.target]) % 10000
  let found := (b.known[slot]?).filter (·.1 = transitions)
  match found with
  | some (_, state) => return (state, b)
  | none =>
    let state := b.machine.states
    let machine ← b.machine.addTransitions transitions.length
    return (state, ⟨machine, b.known.insert slot (transitions, state)⟩)

/-- Closes a chain of states, each the target of the last transition of the one before it, from its
end. Gives what the chain begins with, which is `final` if there is none. -/
def SetStates.closeChain (final : Nat) :
    List OpenState → SetStates → Option (Nat × SetStates)
  | [], b => some (final, b)
  | s :: chain, b => do
    let (target, b) ← closeChain final chain b
    b.find (s.close target).transitions

def sharedLength : List ByteRange → List OpenState → Nat
  | r :: sequence, s :: chain => if s.last = some r then sharedLength sequence chain + 1 else 0
  | _, _ => 0

def SetStates.addSequence (final : Nat) (chain : List OpenState) (sequence : List ByteRange)
    (b : SetStates) : Option (List OpenState × SetStates) := do
  let n := sharedLength sequence chain
  let (target, b) ← b.closeChain final (chain.drop (n + 1))
  match chain[n]?, sequence.drop n with
  | some s, r :: more =>
    let opened := { s.close target with last := some r }
    return (chain.take n ++ opened :: more.map (fun r ↦ { last := some r }), b)
  | _, _ => return (chain, b)

def addSet (sequences : List (List ByteRange)) (m : Machine) : Option Machine := do
  let final := m.states
  let start : List OpenState × SetStates := ([{}], { machine := ← m.addState })
  let (chain, b) ← sequences.foldlM (fun (chain, b) s ↦ b.addSequence final chain s) start
  let (_, b) ← b.closeChain final chain
  return b.machine

/-- The bytes of a sequence read backwards: a state is found again by its bytes and what follows
them, unless one with the same hash came between. -/
def addBackwards : List ByteRange → Nat → Machine × Std.HashMap Nat (Nat × ByteRange × Nat) →
    Option (Machine × Std.HashMap Nat (Nat × ByteRange × Nat))
  | [], _, (m, known) => do return (← m.addWays 1, known)
  | r :: sequence, target, (m, known) => do
    let slot := hash [target, r.1, r.2] % 1000
    let found := (known[slot]?).filter fun (t, s, _) ↦ t = target && s = r
    match found with
    | some (_, _, state) => addBackwards sequence state (m, known)
    | none =>
      let state := m.states
      addBackwards sequence state (← m.addState, known.insert slot (target, r, state))

def addSetBackwards (sequences : List (List ByteRange)) (m : Machine) : Option Machine := do
  let final := m.states + 1
  let m ← m.addStates 2 0
  let (m, _) ← sequences.foldlM (fun b s ↦ addBackwards s final b) (m, ∅)
  return m

/-- The words up to each one that ends here, and those after the last; the first words come last. -/
def splitAtEnds : List (List Bytes) → List Bytes → List Bytes → List (List Bytes)
  | done, chunk, [] => chunk.reverse :: done
  | done, chunk, [] :: words =>
    if chunk = [] ∧ done = [[]] then splitAtEnds done chunk words
    else splitAtEnds (chunk.reverse :: done) [] words
  | done, chunk, w :: words => splitAtEnds done (w :: chunk) words

def treeSize : Nat → List Bytes → Nat × Nat
  | 0, _ => (0, 0)
  | n + 1, words =>
    let chunks := splitAtEnds [] [] words
    let sizes := chunks.filterMap fun chunk ↦
      let firsts := (chunk.filterMap List.head?).eraseDups
      let below := firsts.map fun b ↦
        let rests := (chunk.filter (·.head? = some b)).map (·.drop 1)
        if rests.all List.isEmpty then (0, 0) else treeSize n rests
      if firsts = [] then none
      else
        let own := if firsts.length = 1 then 0 else 8 * firsts.length
        some (below.foldl (fun (s, r) (t, u) ↦ (s + t, r + u)) (1, own))
    let ways := sizes.length + (chunks.length - 1)
    let fork := if ways = 1 then (0, 0) else (1, 4 * ways)
    sizes.foldl (fun (s, r) (t, u) ↦ (s + t, r + u)) fork

def addWords (words : List Bytes) (m : Machine) : Option Machine :=
  let height := words.foldl (fun n w ↦ max n w.length) 0
  let (states, room) := treeSize height words
  m.addStates (states + 1) room

end Machine

end LiteralPatch
