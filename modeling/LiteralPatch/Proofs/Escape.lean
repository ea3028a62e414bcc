import LiteralPatch.Proofs.Literal.Units

namespace LiteralPatch

namespace Escape

theorem doubleBackslashes_cons (c : Char) (s : Text) :
    doubleBackslashes (c :: s) =
      (if c = '\\' then ['\\', '\\'] else [c]) ++ doubleBackslashes s := by
  rw [doubleBackslashes, List.flatMap_cons]
  rfl

theorem markNewlines_cons {c : Char} (hc : c ≠ '\\') (s : Text) :
    markNewlines (c :: s) = c :: markNewlines s := by
  rw [markNewlines]
  simp [hc]

theorem markNewlines_backslash {s : Text} (hs : s.head? ≠ some 'n') :
    markNewlines ('\\' :: s) = '\\' :: markNewlines s := by
  rw [markNewlines]
  rintro t - rfl
  exact hs rfl

theorem head?_doubleBackslashes {s : Text} (hs : s.head? ≠ some 'n') :
    (doubleBackslashes s).head? ≠ some 'n' := by
  cases s with
  | nil => simp [doubleBackslashes]
  | cons c s =>
    rw [doubleBackslashes_cons]
    split
    · simp
    · simpa using hs

theorem head?_ne_of_forall {s : Text} (hs : ∀ t, '\\' = '\\' → s = 'n' :: t → False) :
    s.head? ≠ some 'n' := by
  intro h
  obtain ⟨t, rfl⟩ := List.head?_eq_some_iff.1 h
  exact hs t rfl rfl

theorem passes_cons {c : Char} (hc : c ≠ '\\') (s : Text) :
    markNewlines (doubleBackslashes (c :: s)) = [c] ++ markNewlines (doubleBackslashes s) := by
  rw [doubleBackslashes_cons, if_neg hc, List.singleton_append, markNewlines_cons hc]
  rfl

theorem passes_backslash_n (s : Text) :
    markNewlines (doubleBackslashes ('\\' :: 'n' :: s)) =
      ['\\', '\\', '\\', 'n'] ++ markNewlines (doubleBackslashes s) := by
  simp only [doubleBackslashes_cons]
  exact (markNewlines_backslash (by simp)).trans rfl

theorem passes_backslash {s : Text} (hs : s.head? ≠ some 'n') :
    markNewlines (doubleBackslashes ('\\' :: s)) =
      ['\\', '\\'] ++ markNewlines (doubleBackslashes s) := by
  simp only [doubleBackslashes_cons]
  refine (markNewlines_backslash (by simp)).trans ?_
  exact congrArg _ (markNewlines_backslash (head?_doubleBackslashes hs))

/-- The backslash that comes in between two texts if one of them ends with a backslash and the other
one starts with an n. -/
def seam (a b : Text) : Text :=
  if a.getLast? = some '\\' ∧ b.head? = some 'n' then ['\\'] else []

theorem seam_cons_cons (c d : Char) (a b : Text) : seam (c :: d :: a) b = seam (d :: a) b := by
  rw [seam, seam, List.getLast?_cons_cons]

end Escape

namespace Quote

open Escape Literal

variable (q : Quote)

/-- One pass: a backslash before an n is written three times, any other twice, and the quote
behind a backslash. -/
def escapePass : Text → Text
  | [] => []
  | '\\' :: 'n' :: s => '\\' :: '\\' :: '\\' :: 'n' :: escapePass s
  | c :: s =>
    if c = '\\' then '\\' :: '\\' :: escapePass s
    else if c = q.mark then '\\' :: c :: escapePass s
    else c :: escapePass s

/-- What the first two passes make of a front of the text, the third takes on its own. -/
theorem escape_of_passes {u s t : Text}
    (h : markNewlines (doubleBackslashes s) = u ++ markNewlines (doubleBackslashes t)) :
    q.escape s = quoteMarks q.mark u ++ q.escape t := by
  rw [escape, h, quoteMarks, List.flatMap_append]
  rfl

theorem escape_nil : q.escape [] = [] := rfl

theorem escape_cons {c : Char} (hc : c ≠ '\\') (hq : c ≠ q.mark) (s : Text) :
    q.escape (c :: s) = c :: q.escape s := by
  rw [q.escape_of_passes (passes_cons hc s)]
  simp [quoteMarks, hq]

theorem escape_mark (s : Text) : q.escape (q.mark :: s) = '\\' :: q.mark :: q.escape s := by
  rw [q.escape_of_passes (passes_cons q.mark_ne_backslash s)]
  simp [quoteMarks]

theorem escape_backslash_n (s : Text) :
    q.escape ('\\' :: 'n' :: s) = '\\' :: '\\' :: '\\' :: 'n' :: q.escape s := by
  have hq : '\\' ≠ q.mark := q.mark_ne_backslash.symm
  have hn : 'n' ≠ q.mark := q.mark_ne_n.symm
  rw [q.escape_of_passes (passes_backslash_n s)]
  simp [quoteMarks, hq, hn]

theorem escape_backslash {s : Text} (hs : s.head? ≠ some 'n') :
    q.escape ('\\' :: s) = '\\' :: '\\' :: q.escape s := by
  have hq : '\\' ≠ q.mark := q.mark_ne_backslash.symm
  rw [q.escape_of_passes (passes_backslash hs)]
  simp [quoteMarks, hq]

theorem escape_eq_escapePass (s : Text) : q.escape s = q.escapePass s := by
  fun_induction escapePass q s with
  | case1 => rfl
  | case2 s ih => rw [escape_backslash_n, ih]
  | case3 s hs ih => rw [escape_backslash q (head?_ne_of_forall hs), ih]
  | case4 s hs hc ih => rw [escape_mark, ih]
  | case5 c s hs hc hq ih => rw [escape_cons q hc hq, ih]

/-- An escaped text is made of whole units: its bare characters are those of the raw text, and
a backslash takes a further one, an n or the quote. -/
theorem units_escape {B T : Char → Prop} {s : Text} (hs : ∀ c ∈ s, c ≠ q.mark → B c)
    (hb : T '\\') (hn : T 'n') (hq : T q.mark) : Units B T (q.escape s) := by
  rw [escape_eq_escapePass]
  fun_induction escapePass q s with
  | case1 => exact .nil
  | case2 s ih => exact .taken hb (.taken hn (ih fun d hd ↦ hs d (by simp [hd])))
  | case3 s _ ih => exact .taken hb (ih fun d hd ↦ hs d (List.mem_cons_of_mem _ hd))
  | case4 s _ hc ih => exact .taken hq (ih fun d hd ↦ hs d (List.mem_cons_of_mem _ hd))
  | case5 c s _ hc hm ih =>
    exact .bare (hs c List.mem_cons_self hm) hc (ih fun d hd ↦ hs d (List.mem_cons_of_mem _ hd))

theorem body_escape {s : Text} (hs : '\n' ∉ s) : Body q (q.escape s) :=
  q.units_escape (fun _ hc hm ↦ ⟨hm, ne_of_mem_of_not_mem hc hs⟩) (by decide) (by decide)
    q.mark_ne_newline

theorem body_escape_of_not_mem {q' : Quote} {s : Text} (hq : q'.mark ∉ s) (hs : '\n' ∉ s) :
    Body q' (q.escape s) :=
  q.units_escape (fun _ hc _ ↦ ⟨ne_of_mem_of_not_mem hc hq, ne_of_mem_of_not_mem hc hs⟩)
    (by decide) (by decide) q.mark_ne_newline

theorem inline_escape {q' : Quote} (hq : q ≠ q') {s : Text} (hs : '\n' ∉ s) :
    Inline q' (q.escape s) := by
  have hm : q.mark ≠ q'.mark := fun hm ↦ hq (mark_injective hm)
  exact q.units_escape (fun _ hc _ ↦ ne_of_mem_of_not_mem hc hs)
    ⟨by decide, q'.mark_ne_backslash.symm⟩ ⟨by decide, q'.mark_ne_n.symm⟩ ⟨q.mark_ne_newline, hm⟩

theorem count_escape {c : Char} (hc : c ≠ '\\') (s : Text) :
    (q.escape s).count c = s.count c := by
  rw [escape_eq_escapePass]
  fun_induction escapePass q s with
  | case1 => rfl
  | case2 s ih => simp [List.count_cons, Ne.symm hc, ih]
  | case3 s hs ih => simp [Ne.symm hc, ih]
  | case4 s hs hn ih => simp [List.count_cons, Ne.symm hc, ih]
  | case5 d s hs hn hq ih => simp [List.count_cons, ih]

theorem not_mem_escape {c : Char} (hc : c ≠ '\\') {s : Text} (hs : c ∉ s) :
    c ∉ q.escape s := by
  rw [← List.count_eq_zero, q.count_escape hc, List.count_eq_zero]
  exact hs

theorem countP_escape_eq_zero {P : Char → Bool} (hb : P '\\' = false) {s : Text}
    (hs : s.countP P = 0) : (q.escape s).countP P = 0 := by
  rw [List.countP_eq_zero] at hs ⊢
  intro c hc hp
  have hn : c ≠ '\\' := by
    rintro rfl
    rw [hb] at hp
    exact Bool.false_ne_true hp
  by_cases hm : c ∈ s
  · exact hs c hm hp
  · exact q.not_mem_escape hn hm hc

def written (next : Option Char) (c : Char) : Text :=
  if c = '\\' then if next = some 'n' then ['\\', '\\', '\\'] else ['\\', '\\']
  else if c = q.mark then ['\\', c]
  else [c]

def escapeAhead : Text → Text
  | [] => []
  | c :: s => q.written s.head? c ++ escapeAhead s

theorem escape_cons_written (c : Char) (s : Text) :
    q.escape (c :: s) = q.written s.head? c ++ q.escape s := by
  by_cases hc : c = '\\'
  · subst hc
    by_cases hn : s.head? = some 'n'
    · obtain ⟨t, rfl⟩ := List.head?_eq_some_iff.1 hn
      rw [escape_backslash_n, q.escape_cons (by decide) q.mark_ne_n.symm, written, if_pos rfl,
        if_pos hn]
      rfl
    · rw [q.escape_backslash hn, written, if_pos rfl, if_neg hn]
      rfl
  · by_cases hm : c = q.mark
    · rw [written, if_neg hc, if_pos hm, hm, escape_mark]
      rfl
    · rw [q.escape_cons hc hm, written, if_neg hc, if_neg hm]
      rfl

theorem escape_eq_escapeAhead (s : Text) : q.escape s = q.escapeAhead s := by
  induction s with
  | nil => rfl
  | cons c s ih => rw [escape_cons_written, ih, escapeAhead]

theorem written_head? (c : Char) (b : Text) :
    q.written b.head? c = q.written none c ++ seam [c] b := by
  by_cases hc : c = '\\'
  · by_cases hn : b.head? = some 'n' <;> simp [written, seam, hc, hn]
  · simp [written, seam, hc]

theorem escape_append_eq (a b : Text) :
    q.escape (a ++ b) = q.escape a ++ seam a b ++ q.escape b := by
  induction a with
  | nil => rfl
  | cons c a ih =>
    rw [List.cons_append, escape_cons_written, escape_cons_written]
    cases a with
    | nil =>
      -- Only the last character of the first text sees the second one.
      rw [List.nil_append, written_head?, escape_nil, List.append_nil, List.head?_nil]
    | cons d a =>
      rw [ih, seam_cons_cons, List.append_assoc, List.append_assoc, List.append_assoc]
      rfl

theorem escape_append {a b : Text} (h : a.getLast? = some '\\' → b.head? ≠ some 'n') :
    q.escape (a ++ b) = q.escape a ++ q.escape b := by
  have hs : ¬(a.getLast? = some '\\' ∧ b.head? = some 'n') := fun hm ↦ h hm.1 hm.2
  rw [escape_append_eq, seam, if_neg hs, List.append_nil]

/-- The three passes are one that looks at the next character. So texts are escaped one by one
unless a backslash and an n meet between them, which are escaped with one more backslash. -/
theorem escape_append_seam (q : Quote) (s a b : Text) :
    q.escape s = q.escapeAhead s ∧
      q.escape (a ++ b) = q.escape a ++ seam a b ++ q.escape b ∧
      (q.escape (a ++ b) = q.escape a ++ q.escape b ↔
        ¬(a.getLast? = some '\\' ∧ b.head? = some 'n')) := by
  refine ⟨q.escape_eq_escapeAhead s, q.escape_append_eq a b, ?_, ?_⟩
  · intro h hm
    rw [escape_append_eq, seam, if_pos hm, List.append_assoc, List.append_right_inj] at h
    exact List.cons_ne_self _ _ h
  · intro h
    exact q.escape_append fun hl hn ↦ h ⟨hl, hn⟩

example : Quote.double.escape ['\\', 'n', '\\', '"', '\''] =
    ['\\', '\\', '\\', 'n', '\\', '\\', '\\', '"', '\''] := rfl

theorem escape_flatten_replicate {s : Text}
    (h : ¬(s.getLast? = some '\\' ∧ s.head? = some 'n')) (n : Nat) :
    q.escape (List.replicate n s).flatten = (List.replicate n (q.escape s)).flatten := by
  induction n with
  | zero => rfl
  | succ n ih =>
    rw [List.replicate_succ, List.replicate_succ, List.flatten_cons, List.flatten_cons, ← ih]
    refine q.escape_append fun hl hn ↦ h ⟨hl, ?_⟩
    -- Behind the first copy comes another one or nothing.
    cases n with
    | zero => cases hn
    | succ n =>
      cases s with
      | nil => cases hl
      | cons c s => simpa [List.replicate_succ] using hn

theorem escape_eq_escape {q q' : Quote} {s : Text} (h : q.mark ∉ s) (h' : q'.mark ∉ s) :
    q.escape s = q'.escape s := by
  fun_induction escapePass q s with
  | case1 => rfl
  | case2 s ih =>
    simp only [List.mem_cons, not_or] at h h'
    rw [escape_backslash_n, escape_backslash_n, ih h.2.2 h'.2.2]
  | case3 s hs ih =>
    rw [List.mem_cons, not_or] at h h'
    have hn := head?_ne_of_forall hs
    rw [escape_backslash q hn, escape_backslash q' hn, ih h.2 h'.2]
  | case4 s hs hc ih => exact absurd List.mem_cons_self h
  | case5 c s hs hc hq ih =>
    rw [List.mem_cons, not_or] at h h'
    rw [escape_cons q hc hq, escape_cons q' hc (Ne.symm h'.1), ih h.2 h'.2]

theorem escape_replicate_append {c : Char} (hc : c ≠ '\\') (hq : c ≠ q.mark) (n : Nat)
    (s : Text) : q.escape (List.replicate n c ++ s) = List.replicate n c ++ q.escape s := by
  induction n with
  | zero => rfl
  | succ n ih =>
    rw [List.replicate_succ, List.cons_append, escape_cons q hc hq, ih]
    rfl

theorem escape_eq_nil_iff {s : Text} : q.escape s = [] ↔ s = [] := by
  rw [escape_eq_escapePass]
  fun_cases escapePass q s <;> simp

end Quote

end LiteralPatch
