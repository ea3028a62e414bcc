import LiteralPatch.Error

namespace LiteralPatch

namespace Prompt

def question : Text := "Enter the characters you want to allow: ".toList

def takeLine (input : Bytes) : Bytes × Bytes :=
  match input.span (· ≠ 0x0a) with
  | (line, []) => (line, [])
  | (line, ending :: rest) => (line ++ [ending], rest)

def withoutLineEnd (s : Text) : Text :=
  match s.reverse with
  | '\n' :: '\r' :: body => body.reverse
  | '\n' :: body => body.reverse
  | _ => s

def answer (input : Bytes) : Except ProgramError Text × Bytes :=
  let (line, rest) := takeLine input
  match Utf8.decode? line with
  | some s => (.ok (withoutLineEnd s), rest)
  | none => (.error .promptNotUtf8, rest)

end Prompt

end LiteralPatch
