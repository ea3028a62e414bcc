import LiteralPatch.Text.Category
import LiteralPatch.Text.Property.Table

namespace LiteralPatch

namespace Text

def newAlphabeticMarks : List (Nat × Nat) :=
  [(0x10efa, 0x10efb), (0x11b60, 0x11b67), (0x1e6e3, 0x1e6e3), (0x1e6e6, 0x1e6e6),
    (0x1e6ee, 0x1e6ef), (0x1e6f5, 0x1e6f5)]

def isLetter (c : Char) : Bool :=
  match Category.of c with
  | .lu | .ll | .lt | .lm | .lo | .nl => true
  | _ => (Property.alphabeticMarks ++ newAlphabeticMarks).any fun (first, last) ↦
      first ≤ c.toNat && c.toNat ≤ last

def isNumber (c : Char) : Bool :=
  match Category.of c with
  | .nd | .nl | .no => true
  | _ => false

end Text

end LiteralPatch
