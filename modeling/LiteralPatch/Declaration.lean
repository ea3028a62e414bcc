import LiteralPatch.Escape
import LiteralPatch.Scan

namespace LiteralPatch

inductive ParenExtent
  /-- Through the last closing parenthesis of the line. -/
  | greedy
  /-- Through the first closing parenthesis behind the declaration. -/
  | first
  deriving DecidableEq, Repr

def ParenExtent.cut? : ParenExtent → Text → Option (Text × Text)
  | .greedy => Text.throughLast ')'
  | .first => Text.throughFirst ')'

namespace Declaration

def words : Text := "string allowSpecialChars".toList

def expression : ParenExtent → Text
  | .greedy => words ++ ".*\\)".toList
  | .first => words ++ "[^)\\n]*\\)".toList

/-- A declaration at the front of a text, through a closing parenthesis on its line. -/
def read? (extent : ParenExtent) (s : Text) : Option (Text × Text) :=
  (Text.strip? words s).bind fun t ↦
    (extent.cut? (Text.line t)).map fun (a, r) ↦ (words ++ a, r ++ Text.afterLine t)

theorem read?_eq_some {extent : ParenExtent} {s a r : Text} (h : read? extent s = some (a, r)) :
    a ++ r = s ∧ a ≠ [] := by
  obtain ⟨t, ht, hr⟩ := Option.bind_eq_some_iff.1 h
  obtain ⟨⟨x, y⟩, hx, he⟩ := Option.map_eq_some_iff.1 hr
  obtain ⟨rfl, rfl⟩ := Prod.mk.inj he
  have hxy : x ++ y = Text.line t := by
    cases extent with
    | greedy => exact Text.throughLast_append hx
    | first => exact Text.throughFirst_append hx
  have hl := congrArg (· ++ Text.afterLine t) hxy
  simp only [Text.line_append_afterLine] at hl
  refine ⟨?_, fun hn ↦ ?_⟩
  · rw [Text.strip?_eq_some_iff.1 ht]
    exact List.append_assoc .. ▸ congrArg (words ++ ·) (by simpa using hl)
  · exact absurd (List.append_eq_nil_iff.1 hn).1 (by decide)

def matcher (extent : ParenExtent) : Matcher Text where
  run := read? extent
  spell := id
  spell_append h := (read?_eq_some h).1
  spell_ne_nil h := (read?_eq_some h).2

def withDefault (w : Whitelist) : Text :=
  words ++ " = \"".toList ++ w.escaped .double ++ "\")".toList

def setDefault (extent : ParenExtent) (w : Whitelist) (content : Text) : Edit :=
  (matcher extent).replace (fun _ ↦ some (withDefault w)) content

end Declaration

end LiteralPatch
