import LiteralPatch.Proofs.Declaration.Line

namespace LiteralPatch

namespace Declaration

variable {w : Whitelist} {extent : ParenExtent} {s l part : Text} {c : Char}

theorem not_mem_assigned (hc : c ∉ " =\"\\".toList) (h : c ∉ w.raw) : c ∉ assigned w := by
  have hb : c ≠ '\\' := fun he ↦ hc (he ▸ by decide)
  have hsub : ∀ d ∈ " = \"".toList ++ ['"'], d ∈ " =\"\\".toList := by simp
  intro hm
  rw [assigned, List.mem_append, List.mem_append] at hm
  rcases hm with (hm | hm) | hm
  · exact hc (hsub c (List.mem_append_left _ hm))
  · exact Quote.double.not_mem_escape hb h hm
  · exact hc (hsub c (List.mem_append_right _ hm))

theorem newline_not_mem_setDefault (extent : ParenExtent) (hw : '\n' ∉ w.raw) (hs : '\n' ∉ s) :
    '\n' ∉ (setDefault extent w s).content := by
  rw [← List.count_eq_zero, count_newline_setDefault, List.count_eq_zero.2 hs,
    List.count_eq_zero.2 hw, Nat.mul_zero]

theorem setAcross_setAcross (w w' : Whitelist) (l : Text) :
    setAcross w' (setAcross w l).content = setAcross w' l := by
  cases hd : l.dropInfix? words with
  | none => simp only [setAcross, hd]
  | some cut =>
    obtain ⟨p, t⟩ := cut
    by_cases ht : ')' ∈ t
    · obtain ⟨m, q, rfl, hq⟩ := Text.exists_last_of_mem ht
      have hd' := Text.dropInfix?_append hd (assigned w ++ ')' :: q)
      rw [← List.append_assoc] at hd'
      rw [setAcross_of_cut w hd hq, setAcross_of_cut w' hd hq, setAcross_of_cut w' hd' hq]
    · simp only [setAcross, hd, if_neg ht]

theorem setToEnd_setToEnd (w w' : Whitelist) (part : Text) :
    setToEnd w' (setToEnd w part).content = setToEnd w' part := by
  cases hd : part.dropInfix? words with
  | none => simp only [setToEnd, hd]
  | some cut =>
    obtain ⟨p, t⟩ := cut
    simp only [setToEnd, hd, Text.dropInfix?_append hd]

theorem paren_not_mem_setToEnd (hw : ')' ∉ w.raw) (hp : ')' ∉ part) :
    ')' ∉ (setToEnd w part).content := by
  rw [setToEnd]
  split
  · next p t h =>
    obtain ⟨rfl, -⟩ := Text.dropInfix?_iff.1 h
    have hv := not_mem_assigned (by decide) hw
    simp_all
  · exact hp

theorem setInParts_setInParts (hw : ')' ∉ w.raw) (w' : Whitelist) (l : Text) :
    setInParts w' (setInParts w l).content = setInParts w' l := by
  induction l using Text.piece_induction ')' with
  | piece l hp => rw [setInParts_of_not_mem w hp]
  | cons part s hp ih =>
    rw [setInParts_append w hp, setInParts_append w' hp, Edit.join,
      setInParts_append w' (paren_not_mem_setToEnd hw hp), setToEnd_setToEnd, ih]

theorem setDefault_setDefault_line (hw : '\n' ∉ w.raw) (hp : extent = .first → ')' ∉ w.raw)
    (w' : Whitelist) (hl : '\n' ∉ l) :
    setDefault extent w' (setDefault extent w l).content = setDefault extent w' l := by
  have hl' := newline_not_mem_setDefault extent hw hl
  cases extent with
  | greedy =>
    rw [setDefault_greedy_line w hl] at hl' ⊢
    rw [setDefault_greedy_line w' hl', setDefault_greedy_line w' hl, setAcross_setAcross]
  | first =>
    rw [setDefault_first_line w hl] at hl' ⊢
    rw [setDefault_first_line w' hl', setDefault_first_line w' hl,
      setInParts_setInParts (hp rfl)]

theorem setDefault_setDefault (hw : '\n' ∉ w.raw) (hp : extent = .first → ')' ∉ w.raw)
    (w' : Whitelist) (s : Text) :
    setDefault extent w' (setDefault extent w s).content = setDefault extent w' s := by
  induction s using Text.line_induction with
  | line l hl => exact setDefault_setDefault_line hw hp w' hl
  | cons l t hl ih =>
    rw [setDefault_append_newline, setDefault_append_newline, Edit.join, setDefault_append_newline,
      setDefault_setDefault_line hw hp w' hl, ih]

end Declaration

end LiteralPatch
