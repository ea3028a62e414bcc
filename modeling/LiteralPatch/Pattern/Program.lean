import LiteralPatch.Pattern.Basic

namespace LiteralPatch

inductive PatternStep
  | done
  | takeChar (c : Char) (next : Nat)
  | takeOne (s : CharSet) (next : Nat)
  | check (a : Assertion) (next : Nat)
  | fork (next other : Nat)
  deriving DecidableEq, Repr

structure PatternProgram where
  steps : Array PatternStep
  start : Nat
  deriving DecidableEq, Repr

namespace PatternProgram

def push (step : Nat → PatternStep) (p : PatternProgram) : PatternProgram :=
  let i := p.steps.size
  ⟨p.steps.push (step p.start), i⟩

def again (f : PatternProgram → PatternProgram) : Nat → PatternProgram → PatternProgram
  | 0, p => p
  | n + 1, p => again f n (f p)

/-- Puts something in front that leads on or once more through itself, by the fork given. The fork
leads to itself until there is something. -/
def loop (f : PatternProgram → PatternProgram) (p : PatternProgram) : Nat × PatternProgram :=
  let next := p.start
  let fork := p.steps.size
  match f (p.push (.fork fork)) with
  | ⟨steps, start⟩ => (fork, ⟨steps.setIfInBounds fork (.fork start next), start⟩)

end PatternProgram

namespace Pattern

def before : Pattern → PatternProgram → PatternProgram
  | empty, code => code
  | literal s, code => s.reverse.foldl (fun code c ↦ code.push (.takeChar c)) code
  | one s, code => code.push (.takeOne s)
  | assertion a, code => code.push (.check a)
  | group _ p, code => p.before code
  | seq p q, code => p.before (q.before code)
  | alt p q, code =>
    let next := code.start
    let code := q.before code
    let other := code.start
    (p.before { code with start := next }).push (.fork · other)
  | times p 0 none _, code =>
    let (fork, code) := code.loop p.before
    { code with start := fork }
  | times p (n + 1) none _, code => .again p.before n (code.loop p.before).2
  | times p least (some most) _, code =>
    let next := code.start
    .again p.before least
      (.again (fun code ↦ (p.before code).push (.fork · next)) (most - least) code)

def program (p : Pattern) : PatternProgram := p.before ⟨#[.done], 0⟩

end Pattern

namespace PatternProgram

/-- Follows all steps on a list at one position of a text and gives those to follow at the next;
none is for a program that is done. The marks tell for every step the last position it was followed
at, so it is followed there once, and every step puts at most two on the list. -/
def reach? (steps : Array PatternStep) (position : Nat) (before after : Option Char) :
    Nat → List Nat → List Nat → Array Nat → Option (List Nat × Array Nat)
  | 0, _, ahead, marks => some (ahead, marks)
  | _, [], ahead, marks => some (ahead, marks)
  | n + 1, i :: is, ahead, marks =>
    if marks[i]? = some position then reach? steps position before after n is ahead marks
    else
      let marks := marks.setIfInBounds i position
      match steps[i]? with
      | none => reach? steps position before after n is ahead marks
      | some .done => none
      | some (.takeChar c next) =>
        let ahead := if after = some c then next :: ahead else ahead
        reach? steps position before after n is ahead marks
      | some (.takeOne s next) =>
        let ahead := if after.any s.mem then next :: ahead else ahead
        reach? steps position before after n is ahead marks
      | some (.check a next) =>
        let is := if a.holds before after then next :: is else is
        reach? steps position before after n is ahead marks
      | some (.fork next other) =>
        reach? steps position before after n (next :: other :: is) ahead marks

def runFrom (p : PatternProgram) : Text → Nat → Option Char → List Nat → Array Nat → Bool
  | text, position, before, present, marks =>
    let fuel := 3 * p.steps.size + present.length + 2
    match reach? p.steps position before text.head? fuel (present ++ [p.start]) [] marks with
    | none => true
    | some (ahead, marks) =>
      match text with
      | [] => false
      | c :: text => runFrom p text (position + 1) (some c) ahead marks

def occursIn (p : PatternProgram) (s : Text) : Bool :=
  p.runFrom s 1 none [] (Array.replicate p.steps.size 0)

end PatternProgram

end LiteralPatch
