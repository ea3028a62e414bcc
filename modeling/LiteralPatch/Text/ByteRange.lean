import LiteralPatch.Text.CharSet
import LiteralPatch.Utf8

namespace LiteralPatch

abbrev ByteRange := Nat × Nat

namespace CharSet

/-- Where a range has to be cut, if it stands for more than one sequence: at another length of the
encoding first, and then so that every byte but one is free or fixed. -/
def cut? (first last : Nat) : Option Nat :=
  match [0x80, 0x800, 0x10000].find? fun n ↦ first < n && n ≤ last with
  | some n => some n
  | none =>
    if last < 0x80 then none
    else [0x40, 0x1000, 0x40000].findSome? fun n ↦
      if first / n = last / n then none
      else if first % n ≠ 0 then some ((first / n + 1) * n)
      else if last % n ≠ n - 1 then some (last / n * n)
      else none

def pieces : Nat → Nat × Nat → List (Nat × Nat)
  | 0, r => [r]
  | n + 1, (first, last) =>
    match cut? first last with
    | none => [(first, last)]
    | some m => pieces n (first, m - 1) ++ pieces n (m, last)

def byteSequence (piece : Nat × Nat) : List ByteRange :=
  ((Utf8.encode [Char.ofNat piece.1]).zip (Utf8.encode [Char.ofNat piece.2])).map fun (a, b) ↦
    (a.toNat, b.toNat)

/-- A range is cut at two lengths of three and on both sides of three places, so that sixteen cuts
in a row are never needed. -/
def byteSequences (s : CharSet) : List (List ByteRange) :=
  (s.ranges.flatMap (pieces 16)).map byteSequence

end CharSet

end LiteralPatch
