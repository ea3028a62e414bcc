import LiteralPatch.Proofs.Scan
import Mathlib.Algebra.GroupWithZero.Nat

namespace LiteralPatch

namespace Text

theorem line_cons (c : Char) (s : Text) :
    line (c :: s) = if c = '\n' then [] else c :: line s := by
  by_cases h : c = '\n' <;> simp [line, h]

theorem afterLine_cons (c : Char) (s : Text) :
    afterLine (c :: s) = if c = '\n' then c :: s else afterLine s := by
  by_cases h : c = '\n' <;> simp [afterLine, h]

theorem line_append_newline (s t : Text) : line (s ++ '\n' :: t) = line s := by
  induction s with
  | nil => rfl
  | cons c s ih => rw [List.cons_append, line_cons, line_cons, ih]

theorem afterLine_append_newline (s t : Text) :
    afterLine (s ++ '\n' :: t) = afterLine s ++ '\n' :: t := by
  induction s with
  | nil => rfl
  | cons c s ih =>
    rw [List.cons_append, afterLine_cons, afterLine_cons, ih]
    split <;> rfl

theorem line_append {s : Text} (h : '\n' ∉ s) (t : Text) : line (s ++ t) = s ++ line t := by
  induction s with
  | nil => rfl
  | cons c s ih =>
    rw [List.mem_cons, not_or] at h
    rw [List.cons_append, line_cons, if_neg (Ne.symm h.1), ih h.2, List.cons_append]

theorem afterLine_append {s : Text} (h : '\n' ∉ s) (t : Text) :
    afterLine (s ++ t) = afterLine t := by
  induction s with
  | nil => rfl
  | cons c s ih =>
    rw [List.mem_cons, not_or] at h
    rw [List.cons_append, afterLine_cons, if_neg (Ne.symm h.1), ih h.2]

theorem newline_not_mem_line (s : Text) : '\n' ∉ line s := by
  induction s with
  | nil => exact List.not_mem_nil
  | cons c s ih =>
    rw [line_cons]
    split
    · exact List.not_mem_nil
    · next hc =>
      rw [List.mem_cons, not_or]
      exact ⟨Ne.symm hc, ih⟩

theorem mem_line_iff {c : Char} (hc : c ≠ '\n') {s : Text} :
    c ∈ line s ↔ ∃ x y, '\n' ∉ x ∧ s = x ++ c :: y := by
  constructor
  · intro h
    obtain ⟨x, y, hxy⟩ := List.append_of_mem h
    have hn := newline_not_mem_line s
    rw [hxy, List.mem_append, not_or] at hn
    refine ⟨x, y ++ afterLine s, hn.1, ?_⟩
    rw [← List.cons_append, ← List.append_assoc, ← hxy, line_append_afterLine]
  · rintro ⟨x, y, hx, rfl⟩
    rw [line_append hx, line_cons, if_neg hc]
    simp

theorem line_afterLine (s : Text) : line (afterLine s) = [] := by
  induction s with
  | nil => rfl
  | cons c s ih =>
    rw [afterLine_cons]
    split
    · next hc => rw [line_cons, if_pos hc]
    · exact ih

theorem line_eq_self {s : Text} (h : '\n' ∉ s) : line s = s := by
  simpa [line] using line_append h []

theorem afterLine_eq_nil {s : Text} (h : '\n' ∉ s) : afterLine s = [] := by
  simpa [afterLine] using afterLine_append h []

@[elab_as_elim]
theorem piece_induction {P : Text → Prop} (c : Char) (s : Text) (piece : ∀ l, c ∉ l → P l)
    (cons : ∀ l t, c ∉ l → P t → P (l ++ c :: t)) : P s := by
  induction hn : s.length using Nat.strongRecOn generalizing s with
  | ind n ih =>
    by_cases h : c ∈ s
    · obtain ⟨l, t, rfl, hl⟩ := List.eq_append_cons_of_mem h
      refine cons l t hl (ih t.length ?_ t rfl)
      simp only [List.length_append, List.length_cons] at hn
      omega
    · exact piece s h

@[elab_as_elim]
theorem line_induction {P : Text → Prop} (s : Text) (line : ∀ l, '\n' ∉ l → P l)
    (cons : ∀ l t, '\n' ∉ l → P t → P (l ++ '\n' :: t)) : P s :=
  piece_induction '\n' s line cons

theorem newline_not_mem_of_mem_splitOn {s l : Text} (h : l ∈ s.splitOn '\n') : '\n' ∉ l := by
  induction s using line_induction with
  | line l' hl =>
    rw [List.splitOn_eq_singleton hl, List.mem_singleton] at h
    exact h ▸ hl
  | cons l' t hl ih =>
    rw [List.splitOn_append_cons_self_of_not_mem hl, List.mem_cons] at h
    rcases h with rfl | h
    · exact hl
    · exact ih h

end Text

def Edit.joinLines (es : List Edit) : Edit :=
  ⟨['\n'].intercalate (es.map Edit.content), (es.map Edit.hits).sum⟩

theorem Edit.joinLines_singleton (e : Edit) : joinLines [e] = e := by
  simp [joinLines]

theorem Edit.joinLines_cons (e : Edit) {es : List Edit} (h : es ≠ []) :
    joinLines (e :: es) =
      ⟨e.content ++ '\n' :: (joinLines es).content, e.hits + (joinLines es).hits⟩ := by
  simp [joinLines, List.intercalate_cons_of_ne_nil, h]

theorem Edit.hits_joinLines_map {f : Text → Edit} {P : Text → Bool}
    (h : ∀ l, (f l).hits = if P l then 1 else 0) (ls : List Text) :
    (joinLines (ls.map f)).hits = ls.countP P := by
  induction ls with
  | nil => rfl
  | cons l ls ih =>
    rw [List.countP_cons, ← ih, ← h]
    exact (List.sum_cons ..).trans (Nat.add_comm ..)

namespace Matcher

variable {α : Type} {m : Matcher α}

/-- What is behind a line feed has no part in what the matcher finds. -/
def LineLocal (m : Matcher α) : Prop :=
  ∀ s t, m.run (s ++ '\n' :: t) = (m.run s).map fun p ↦ (p.1, p.2 ++ '\n' :: t)

theorem run_nil (m : Matcher α) : m.run [] = none := by
  cases h : m.run [] with
  | none => rfl
  | some p => exact absurd (m.length_rest_lt h) (Nat.not_lt_zero _)

theorem LineLocal.segments_append (h : m.LineLocal) (s t : Text) :
    m.segments (s ++ '\n' :: t) = m.segments s ++ .plain '\n' :: m.segments t := by
  induction s using m.induction with
  | nil =>
    have hr : m.run ('\n' :: t) = none := by simpa [m.run_nil] using h [] t
    rw [List.nil_append, m.segments_of_not_run hr, m.segments_nil]
    rfl
  | plain c s hr ih =>
    have hr' : m.run (c :: (s ++ '\n' :: t)) = none := by
      rw [← List.cons_append, h, hr]
      rfl
    rw [List.cons_append, m.segments_of_not_run hr', ih, m.segments_of_not_run hr]
    rfl
  | span a s r hr ih =>
    have hr' : m.run (s ++ '\n' :: t) = some (a, r ++ '\n' :: t) := by
      rw [h, hr]
      rfl
    rw [m.segments_of_run hr', ih, m.segments_of_run hr]
    rfl

theorem LineLocal.replace_append (h : m.LineLocal) (change : α → Option Text) (s t : Text) :
    m.replace change (s ++ '\n' :: t) =
      ⟨(m.replace change s).content ++ '\n' :: (m.replace change t).content,
        (m.replace change s).hits + (m.replace change t).hits⟩ := by
  simp [replace, h.segments_append, Segment.replaced, Segment.isHit]

/-- An edit by such a matcher is the edit of each line on its own. -/
theorem LineLocal.replace_eq_joinLines (h : m.LineLocal) (change : α → Option Text) (s : Text) :
    m.replace change s = Edit.joinLines ((s.splitOn '\n').map (m.replace change)) := by
  induction s using Text.line_induction with
  | line l hl => rw [List.splitOn_eq_singleton hl, List.map_singleton, Edit.joinLines_singleton]
  | cons l t hl ih =>
    have hne : (t.splitOn '\n').map (m.replace change) ≠ [] := by simp [List.splitOn_ne_nil]
    rw [h.replace_append, ih, List.splitOn_append_cons_self_of_not_mem hl, List.map_cons,
      Edit.joinLines_cons _ hne]

end Matcher

end LiteralPatch
