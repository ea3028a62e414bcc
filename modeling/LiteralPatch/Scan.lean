import LiteralPatch.Text

namespace LiteralPatch

/-- Recognises one span at the front of a text, and gives what follows it. -/
structure Matcher (α : Type) where
  run : Text → Option (α × Text)
  spell : α → Text
  spell_append : ∀ {s a r}, run s = some (a, r) → spell a ++ r = s
  spell_ne_nil : ∀ {s a r}, run s = some (a, r) → spell a ≠ []

inductive Segment (α : Type)
  | plain (c : Char)
  | span (a : α)

structure Edit where
  content : Text
  hits : Nat
  deriving DecidableEq, Repr

namespace Segment

variable {α : Type}

def spell (write : α → Text) : Segment α → Text
  | plain c => [c]
  | span a => write a

def replaced (write : α → Text) (change : α → Option Text) : Segment α → Text
  | plain c => [c]
  | span a => (change a).getD (write a)

def isHit (change : α → Option Text) : Segment α → Bool
  | plain _ => false
  | span a => (change a).isSome

end Segment

namespace Matcher

variable {α : Type} (m : Matcher α)

theorem length_rest_lt {s r : Text} {a : α} (h : m.run s = some (a, r)) :
    r.length < s.length := by
  have hp := List.length_pos_iff.2 (m.spell_ne_nil h)
  rw [← m.spell_append h, List.length_append]
  omega

def segmentsAfter (found : List (Segment α)) (s : Text) : List (Segment α) :=
  match s with
  | [] => found.reverse
  | c :: s =>
    match _h : m.run (c :: s) with
    | some (a, r) => segmentsAfter (.span a :: found) r
    | none => segmentsAfter (.plain c :: found) s
termination_by s.length
decreasing_by
  · exact m.length_rest_lt _h
  · exact Nat.lt_succ_self _

def segments (s : Text) : List (Segment α) := m.segmentsAfter [] s

theorem segmentsAfter_append (found found' : List (Segment α)) (s : Text) :
    m.segmentsAfter (found' ++ found) s = found.reverse ++ m.segmentsAfter found' s := by
  fun_induction segmentsAfter m found' s with
  | case1 found' => simp [segmentsAfter]
  | case2 found' c s a r h ih =>
    rw [segmentsAfter]
    split
    · next a' r' h' =>
      obtain ⟨rfl, rfl⟩ : a' = a ∧ r' = r := by simpa [h] using h'.symm
      exact ih
    · simp_all
  | case3 found' c s h ih =>
    rw [segmentsAfter]
    split
    · simp_all
    · exact ih

theorem segmentsAfter_eq (found : List (Segment α)) (s : Text) :
    m.segmentsAfter found s = found.reverse ++ m.segments s :=
  m.segmentsAfter_append found [] s

theorem segments_nil : m.segments [] = [] := by simp [segments, segmentsAfter]

theorem segments_of_run {s r : Text} {a : α} (h : m.run s = some (a, r)) :
    m.segments s = .span a :: m.segments r := by
  cases s with
  | nil =>
    have := m.spell_append h
    exact absurd (List.append_eq_nil_iff.1 this).1 (m.spell_ne_nil h)
  | cons c s =>
    rw [segments, segmentsAfter]
    split
    · next a' r' h' =>
      obtain ⟨rfl, rfl⟩ : a' = a ∧ r' = r := by simpa [h] using h'.symm
      simp [segmentsAfter_eq]
    · simp_all

theorem segments_of_not_run {c : Char} {s : Text} (h : m.run (c :: s) = none) :
    m.segments (c :: s) = .plain c :: m.segments s := by
  rw [segments, segmentsAfter]
  split
  · simp_all
  · simp [segmentsAfter_eq]

/-- Replaces each span for which `change` has a text, and counts those spans. -/
def replace (change : α → Option Text) (s : Text) : Edit :=
  let found := m.segments s
  { content := found.flatMap (Segment.replaced m.spell change)
    hits := found.countP (Segment.isHit change) }

end Matcher

end LiteralPatch
