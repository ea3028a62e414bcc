import LiteralPatch.Pattern.Basic

namespace LiteralPatch

namespace Pattern

def ofChar (c : Char) : Pattern := literal [c]

def ofSet (s : CharSet) : Pattern :=
  match s.only? with
  | some c => ofChar c
  | none => one s

def joinLiterals (ps : List Pattern) : List Pattern :=
  ps.foldr
    (fun p rest ↦
      match p, rest with
      | literal s, literal t :: more => literal (s ++ t) :: more
      | _, _ => p :: rest)
    []

def sequence (ps : List Pattern) : Pattern := ofParts (joinLiterals (ps.flatMap parts))

def characters? : Pattern → Option CharSet
  | literal [c] => some (.one c)
  | _ => none

def members? : Pattern → Option CharSet
  | one s => some s
  | _ => none

def asSet? (ps : List Pattern) : Option CharSet :=
  (ps.mapM characters? <|> ps.mapM members?).map CharSet.unions

def commonStart : List Pattern → List Pattern → List Pattern
  | p :: ps, q :: qs => if p = q then p :: commonStart ps qs else []
  | _, _ => []

def shared : List Pattern → List Pattern
  | [] => []
  | p :: ps =>
    if (p :: ps).all fun q ↦ 2 ≤ q.parts.length then
      ps.foldl (fun start q ↦ commonStart start q.parts) p.parts
    else []

/-- Every round takes a part off all alternatives, so that there are no more rounds than parts. -/
def factored : Nat → List Pattern → Pattern
  | 0, ps => ofAlternatives ps
  | n + 1, ps =>
    match ps.flatMap alternatives with
    | [] => ofAlternatives []
    | [p] => p
    | ps =>
      match asSet? ps with
      | some s => ofSet s
      | none =>
        match shared ps with
        | [] => ofAlternatives ps
        | start =>
          let rests := ps.map fun p ↦ sequence (p.parts.drop start.length)
          sequence (start ++ [factored n rests])

def anyOf (ps : List Pattern) : Pattern :=
  factored (ps.foldl (fun n p ↦ n + p.size) 1) ps

/-- A pattern that takes nothing is repeated once at most. -/
def repeated (p : Pattern) (least : Nat) (most : Option Nat) (isLazy : Bool) : Pattern :=
  let least := if p.isStill then min least 1 else least
  let most := if p.isStill then some (min (most.getD 1) 1) else most
  if most = some 0 then empty
  else if least = 1 ∧ most = some 1 then p
  else times p least most isLazy

end Pattern

end LiteralPatch
