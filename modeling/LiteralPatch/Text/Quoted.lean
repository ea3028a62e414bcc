import LiteralPatch.Text.Hidden

namespace LiteralPatch

namespace Text

def hexDigits (n : Nat) : Text := Nat.toDigits 16 n

/-- A hidden character is written by its code in braces. -/
def quotedChar (c : Char) : Text :=
  match c with
  | '\\' => "\\\\".toList
  | '"' => "\\\"".toList
  | '\n' => "\\n".toList
  | '\r' => "\\r".toList
  | '\t' => "\\t".toList
  | '\x00' => "\\0".toList
  | c => if isHidden c then "\\u\x7b".toList ++ hexDigits c.toNat ++ ['\x7d'] else [c]

def quoted (s : Text) : Text := '"' :: s.flatMap quotedChar ++ ['"']

def inMessage (s : Text) : String := String.ofList (quoted s)

end Text

end LiteralPatch
