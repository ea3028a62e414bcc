import LiteralPatch.Proofs.Declaration.Line
import LiteralPatch.Proofs.SourceText

namespace LiteralPatch

theorem Utf8.encode_sublist {s t : Text} (h : s.Sublist t) : (encode s).Sublist (encode t) := by
  induction h with
  | slnil => exact List.Sublist.refl _
  | cons c _ ih =>
    rw [encode_cons]
    exact ih.trans (List.sublist_append_right _ _)
  | cons_cons c _ ih =>
    rw [encode_cons, encode_cons]
    exact ih.append_left _

/-- What one edit leaves is a part of what another one leaves, and if one of them has a hit, so has
the other. -/
structure Edit.Within (e e' : Edit) : Prop where
  sublist : e.content.Sublist e'.content
  hits_le : e.hits ≤ e'.hits
  hits_pos : 0 < e'.hits → 0 < e.hits

namespace Edit.Within

variable {e e' d d' : Edit}

theorem refl (e : Edit) : e.Within e := ⟨List.Sublist.refl _, Nat.le_refl _, id⟩

theorem join (c : Char) (h : d.Within d') (h' : e.Within e') :
    (d.join c e).Within (d'.join c e') where
  sublist := h.sublist.append (h'.sublist.cons_cons c)
  hits_le := Nat.add_le_add h.hits_le h'.hits_le
  hits_pos hp := by
    have hd := h.hits_pos
    have he := h'.hits_pos
    simp only [Edit.join] at hp ⊢
    omega

/-- The whole is the same if and only if both sides are, for neither can make up for the other. -/
theorem content_join_eq_iff (c : Char) (h : d.Within d') (h' : e.Within e') :
    (d.join c e).content = (d'.join c e').content ↔
      d.content = d'.content ∧ e.content = e'.content := by
  constructor
  · intro heq
    have hlen := congrArg List.length heq
    have hd := h.sublist.length_le
    have he := h'.sublist.length_le
    simp only [Edit.join, List.length_append, List.length_cons] at hlen
    exact ⟨h.sublist.eq_of_length (by omega), h'.sublist.eq_of_length (by omega)⟩
  · intro heq
    rw [Edit.join, Edit.join, heq.1, heq.2]

end Edit.Within

namespace Declaration

def ClosedOnce (l : Text) : Prop :=
  ∀ p t, l.dropInfix? words = some (p, t) → t.count ')' ≤ 1

variable {l m q : Text}

theorem exists_content_first (w : Whitelist) (hl : '\n' ∉ m ++ ')' :: q) (hq : ')' ∉ q) :
    ∃ x, (setDefault .first w (m ++ ')' :: q)).content = x ++ ')' :: q := by
  induction m using Text.piece_induction ')' with
  | piece m hm =>
    refine ⟨(setToEnd w m).content, ?_⟩
    rw [setDefault_first_line w hl, setInParts_append w hm, setInParts_of_not_mem w hq]
    rfl
  | cons part s hp ih =>
    rw [List.append_assoc, List.cons_append] at hl ⊢
    have hs : '\n' ∉ s ++ ')' :: q := by simp_all
    obtain ⟨x, hx⟩ := ih hs
    refine ⟨(setToEnd w part).content ++ ')' :: x, ?_⟩
    rw [setDefault_first_line w hl, setInParts_append w hp, ← setDefault_first_line w hs, Edit.join,
      hx]
    simp

theorem setDefault_line_once (w : Whitelist) (hl : '\n' ∉ l) (h : ClosedOnce l) :
    setDefault .greedy w l = setDefault .first w l := by
  cases hd : l.dropInfix? words with
  | none =>
    have hi := Text.dropInfix?_eq_none_iff.1 hd
    rw [setDefault_of_not_isInfix w hi, setDefault_of_not_isInfix w hi]
  | some cut =>
    obtain ⟨p, t⟩ := cut
    by_cases ht : ')' ∈ t
    · -- The first parenthesis behind the declaration is the last one, so both extents cut there.
      obtain ⟨m, q, rfl, hm⟩ := List.eq_append_cons_of_mem ht
      have hq : ')' ∉ q := by
        intro hq
        have hcount := h p _ hd
        have hpos := List.count_pos_iff.2 hq
        rw [List.count_append, List.count_cons_self] at hcount
        omega
      rw [setDefault_of_cut? w hl hd (cut?_greedy m hq), setDefault_of_not_mem w hq,
        setDefault_of_cut? w hl hd (cut?_first hm q), setDefault_of_not_mem w hq]
    · rw [setDefault_of_not_mem_behind w hd ht, setDefault_of_not_mem_behind w hd ht]

theorem setDefault_line_again (w : Whitelist) (hl : '\n' ∉ l) (h : ¬ClosedOnce l) :
    (setDefault .greedy w l).Within (setDefault .first w l) ∧
      (setDefault .greedy w l).content ≠ (setDefault .first w l).content := by
  simp only [ClosedOnce, not_forall, Nat.not_le] at h
  obtain ⟨p, t, hd, hcount⟩ := h
  have ht : ')' ∈ t := List.count_pos_iff.1 (by omega)
  obtain ⟨m, r, rfl, hm⟩ := List.eq_append_cons_of_mem ht
  rw [List.count_append, List.count_cons_self, List.count_eq_zero.2 hm] at hcount
  have hr : ')' ∈ r := List.count_pos_iff.1 (by omega)
  obtain ⟨m', q, rfl, hq⟩ := Text.exists_last_of_mem hr
  have hr' : '\n' ∉ m' ++ ')' :: q := by
    rw [(Text.dropInfix?_iff.1 hd).1] at hl
    simp_all
  -- Both leave the tail `q`, but only the first extent leaves the parenthesis in front of it, and
  -- so a longer text, whatever stands in the whitelist.
  obtain ⟨x, hx⟩ := exists_content_first w hr' hq
  have hcut := cut?_greedy (m ++ ')' :: m') hq
  rw [List.append_assoc, List.cons_append] at hcut
  rw [setDefault_of_cut? w hl hd hcut, setDefault_of_not_mem w hq,
    setDefault_of_cut? w hl hd (cut?_first hm _), hx]
  refine ⟨⟨?_, Nat.le_add_right 1 _, fun _ ↦ Nat.one_pos⟩, fun heq ↦ ?_⟩
  · exact ((List.sublist_cons_self _ q).trans (List.sublist_append_right x _)).append_left _
  · have hlen := congrArg List.length heq
    simp only [List.length_append, List.length_cons] at hlen
    omega

theorem setDefault_within_line (w : Whitelist) (hl : '\n' ∉ l) :
    (setDefault .greedy w l).Within (setDefault .first w l) ∧
      ((setDefault .greedy w l).content = (setDefault .first w l).content ↔ ClosedOnce l) := by
  by_cases hc : ClosedOnce l
  · have he := setDefault_line_once w hl hc
    exact ⟨he ▸ .refl _, iff_of_true (he ▸ rfl) hc⟩
  · obtain ⟨hw, hne⟩ := setDefault_line_again w hl hc
    exact ⟨hw, iff_of_false hne hc⟩

theorem setDefault_within (w : Whitelist) (s : Text) :
    (setDefault .greedy w s).Within (setDefault .first w s) ∧
      ((setDefault .greedy w s).content = (setDefault .first w s).content ↔
        ∀ l ∈ s.splitOn '\n', ClosedOnce l) := by
  induction s using Text.line_induction with
  | line l hl =>
    rw [List.splitOn_eq_singleton hl, List.forall_mem_singleton]
    exact setDefault_within_line w hl
  | cons l t hl ih =>
    obtain ⟨hline, hline_iff⟩ := setDefault_within_line w hl
    rw [setDefault_append_newline, setDefault_append_newline,
      List.splitOn_append_cons_self_of_not_mem hl, List.forall_mem_cons,
      hline.content_join_eq_iff '\n' ih.1, hline_iff, ih.2]
    exact ⟨hline.join '\n' ih.1, Iff.rfl⟩

/-- The extents hit the same texts. Through the last parenthesis there are no more hits than through
the first one, and no more text is left, in characters or in bytes; and the same text is left if and
only if no line has a second parenthesis behind its first declaration. -/
theorem setDefault_greedy_le_first (w : Whitelist) (s : Text) :
    ((setDefault .greedy w s).hits = 0 ↔ (setDefault .first w s).hits = 0) ∧
      (setDefault .greedy w s).hits ≤ (setDefault .first w s).hits ∧
      (setDefault .greedy w s).content.length ≤ (setDefault .first w s).content.length ∧
      (Utf8.encode (setDefault .greedy w s).content).length ≤
        (Utf8.encode (setDefault .first w s).content).length ∧
      ((setDefault .greedy w s).content = (setDefault .first w s).content ↔
        ∀ l ∈ s.splitOn '\n', ClosedOnce l) := by
  obtain ⟨hw, hsame⟩ := setDefault_within w s
  have hpos := hw.hits_pos
  have hle := hw.hits_le
  refine ⟨?_, hle, hw.sublist.length_le, (Utf8.encode_sublist hw.sublist).length_le, hsame⟩
  constructor <;> intro h <;> omega

end Declaration

end LiteralPatch
