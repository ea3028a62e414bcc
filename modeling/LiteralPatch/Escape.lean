import LiteralPatch.Text

namespace LiteralPatch

inductive Quote
  | single
  | double
  deriving DecidableEq, Repr

def Quote.mark : Quote → Char
  | .single => '\''
  | .double => '"'

namespace Quote

theorem mark_ne_backslash (q : Quote) : q.mark ≠ '\\' := by cases q <;> decide

theorem mark_ne_newline (q : Quote) : q.mark ≠ '\n' := by cases q <;> decide

theorem mark_ne_n (q : Quote) : q.mark ≠ 'n' := by cases q <;> decide

theorem mark_not_alpha (q : Quote) : q.mark.isAlpha = false := by cases q <;> decide

theorem mark_injective {q q' : Quote} (h : q.mark = q'.mark) : q = q' := by
  cases q <;> cases q' <;> first | rfl | exact absurd h (by decide)

end Quote

namespace Escape

def doubleBackslashes (s : Text) : Text :=
  s.flatMap fun c ↦ if c = '\\' then ['\\', '\\'] else [c]

/-- Puts a backslash before each backslash that stands directly before the letter n. -/
def markNewlines : Text → Text
  | [] => []
  | '\\' :: 'n' :: s => '\\' :: '\\' :: 'n' :: markNewlines s
  | c :: s => c :: markNewlines s

def quoteMarks (q : Char) (s : Text) : Text :=
  s.flatMap fun c ↦ if c = q then ['\\', q] else [c]

end Escape

/-- Doubles the backslashes, then escapes each backslash-n of the result once more, then the quote
of the literal. Everything else stays, control characters and the other quote included. -/
def Quote.escape (q : Quote) (raw : Text) : Text :=
  Escape.quoteMarks q.mark (Escape.markNewlines (Escape.doubleBackslashes raw))

structure Whitelist where
  raw : Text
  deriving DecidableEq, Repr

namespace Whitelist

def escaped (w : Whitelist) (q : Quote) : Text := q.escape w.raw

def isEmpty (w : Whitelist) : Bool := w.raw.isEmpty

end Whitelist

end LiteralPatch
