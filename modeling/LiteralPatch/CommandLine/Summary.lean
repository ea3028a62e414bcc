import LiteralPatch.Run
import LiteralPatch.Text.Quoted

namespace LiteralPatch

namespace Summary

/-- Control characters without a short escape are written with four digits. -/
def escapedChar (c : Char) : Text :=
  match c with
  | '"' => "\\\"".toList
  | '\\' => "\\\\".toList
  | '\x08' => "\\b".toList
  | '\x0c' => "\\f".toList
  | '\n' => "\\n".toList
  | '\r' => "\\r".toList
  | '\t' => "\\t".toList
  | c =>
    if c.toNat < 0x20 then
      let digits := Text.hexDigits c.toNat
      "\\u".toList ++ List.replicate (4 - digits.length) '0' ++ digits
    else [c]

def jsonString (s : Text) : String := String.ofList ('"' :: s.flatMap escapedChar ++ ['"'])

def kindName : FileKind → String
  | .targeted => "targeted"
  | .generic => "generic"

def fields (o : Outcome) : List (String × String) :=
  [("path", jsonString o.path), ("kind", jsonString (kindName o.kind).toList),
   ("hits", s!"{o.hits}"), ("changed", s!"{o.changed}"), ("written", s!"{o.written}")]

def object (o : Outcome) : String :=
  let lines := (fields o).map fun (name, value) ↦ s!"    \"{name}\": {value}"
  "  \x7b\n" ++ String.intercalate ",\n" lines ++ "\n  \x7d"

def render (os : List Outcome) : String :=
  if os.isEmpty then "[]" else "[\n" ++ String.intercalate ",\n" (os.map object) ++ "\n]"

end Summary

end LiteralPatch
