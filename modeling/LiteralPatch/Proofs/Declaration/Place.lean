import LiteralPatch.Proofs.Patch
import LiteralPatch.Proofs.Span
import Mathlib.Data.List.DropRight

namespace LiteralPatch

namespace Text

variable {w s p t : Text} {c : Char}

theorem dropInfix?_iff : s.dropInfix? w = some (p, t) ↔
    s = p ++ w ++ t ∧ ∀ p', p' ++ w <+: s → p.length ≤ p'.length := by
  rw [List.dropInfix?_eq_some_iff]
  simp only [beq_iff_eq, exists_eq_right]
  refine and_congr_right fun _ ↦ ⟨?_, ?_⟩
  · intro h p' ⟨t', ht'⟩
    exact h p' w t' ht'.symm rfl
  · intro h p' w' t' he hw
    subst hw
    exact h p' ⟨t', he.symm⟩

theorem exists_dropInfix? (h : w <:+: s) : ∃ p t, s.dropInfix? w = some (p, t) := by
  induction s with
  | nil =>
    obtain rfl := List.infix_nil.1 h
    exact ⟨[], [], List.dropInfix?_nil⟩
  | cons c s ih =>
    by_cases hw : w <+: c :: s
    · obtain ⟨t, ht⟩ := hw
      exact ⟨[], t, dropInfix?_iff.2 ⟨ht.symm, fun _ _ ↦ Nat.zero_le _⟩⟩
    · obtain ⟨p, t, hpt⟩ := ih ((List.infix_cons_iff.1 h).resolve_left hw)
      obtain ⟨rfl, hfirst⟩ := dropInfix?_iff.1 hpt
      refine ⟨c :: p, t, dropInfix?_iff.2 ⟨rfl, fun p' hp' ↦ ?_⟩⟩
      cases p' with
      | nil => exact absurd hp' hw
      | cons d p' => exact Nat.succ_le_succ (hfirst p' (List.cons_prefix_cons.1 hp').2)

theorem dropInfix?_eq_none_iff : s.dropInfix? w = none ↔ ¬w <:+: s := by
  constructor
  · intro h hw
    obtain ⟨p, t, hpt⟩ := exists_dropInfix? hw
    rw [h] at hpt
    cases hpt
  · intro h
    cases hd : s.dropInfix? w with
    | none => rfl
    | some p => exact absurd ⟨p.1, p.2, (dropInfix?_iff.1 hd).1.symm⟩ h

theorem dropInfix?_append (h : s.dropInfix? w = some (p, t)) (t' : Text) :
    (p ++ w ++ t').dropInfix? w = some (p, t') := by
  obtain ⟨rfl, hfirst⟩ := dropInfix?_iff.1 h
  refine dropInfix?_iff.2 ⟨rfl, fun p' hp' ↦ ?_⟩
  by_contra hlt
  have hlen : (p' ++ w).length ≤ (p ++ w).length := by
    simp only [List.length_append]
    omega
  have hpw : p' ++ w <+: p ++ w := List.prefix_of_prefix_length_le hp' ⟨t', rfl⟩ hlen
  exact hlt (hfirst p' (hpw.trans ⟨t, rfl⟩))

theorem prefix_of_prefix_append_cons (hc : c ∉ w) (h : w <+: s ++ c :: t) : w <+: s := by
  refine List.prefix_of_prefix_length_le h ⟨c :: t, rfl⟩ ?_
  by_contra hlt
  have hs : s ++ [c] <+: w := by
    refine List.prefix_of_prefix_length_le ⟨t, by simp⟩ h ?_
    simp only [List.length_append, List.length_singleton]
    omega
  exact hc (hs.subset (by simp))

theorem throughFirst_append_cons (h : c ∉ s) (t : Text) :
    throughFirst c (s ++ c :: t) = some (s ++ [c], t) := by
  induction s with
  | nil => rw [List.nil_append, throughFirst, if_pos rfl, List.nil_append]
  | cons d s ih =>
    rw [List.mem_cons, not_or] at h
    rw [List.cons_append, throughFirst, if_neg (Ne.symm h.1), ih h.2]
    rfl

theorem throughLast_append_cons (s : Text) (h : c ∉ t) :
    throughLast c (s ++ c :: t) = some (s ++ [c], t) := by
  induction s with
  | nil =>
    have ht : throughLast c t = none := by
      rw [← Option.not_isSome_iff_eq_none, LetterRange.isSome_throughLast_iff]
      exact h
    rw [List.nil_append, throughLast, ht]
    simp
  | cons d s ih =>
    rw [List.cons_append, throughLast, ih]
    rfl

theorem mem_of_throughFirst {a b : Text} (h : throughFirst c s = some (a, b)) : c ∈ a := by
  induction s generalizing a b with
  | nil => cases h
  | cons d s ih =>
    rw [throughFirst] at h
    split at h
    · next hd =>
      obtain ⟨rfl, -⟩ := Prod.mk.inj (Option.some.inj h)
      exact List.mem_singleton.2 hd.symm
    · obtain ⟨⟨x, y⟩, hx, he⟩ := Option.map_eq_some_iff.1 h
      obtain ⟨rfl, -⟩ := Prod.mk.inj he
      exact List.mem_cons_of_mem d (ih hx)

theorem throughFirst_eq_some_iff {a b : Text} :
    throughFirst c s = some (a, b) ↔ ∃ x, c ∉ x ∧ a = x ++ [c] ∧ s = a ++ b := by
  constructor
  · intro h
    have hs := throughFirst_append h
    obtain ⟨x, y, hx, hc⟩ :=
      List.eq_append_cons_of_mem (hs ▸ List.mem_append_left b (mem_of_throughFirst h))
    rw [hx, throughFirst_append_cons hc] at h
    obtain ⟨rfl, rfl⟩ := Prod.mk.inj (Option.some.inj h)
    exact ⟨x, hc, rfl, hs.symm⟩
  · rintro ⟨x, hx, rfl, rfl⟩
    rw [List.append_assoc]
    exact throughFirst_append_cons hx b

theorem exists_last_of_mem (h : c ∈ s) : ∃ m q, s = m ++ c :: q ∧ c ∉ q := by
  obtain ⟨x, y, hxy, hx⟩ := List.eq_append_cons_of_mem (List.mem_reverse.2 h)
  refine ⟨y.reverse, x.reverse, ?_, fun hm ↦ hx (List.mem_reverse.1 hm)⟩
  rw [← List.reverse_reverse s, hxy]
  simp

theorem throughLast_eq_some_iff {a b : Text} :
    throughLast c s = some (a, b) ↔ ∃ x, a = x ++ [c] ∧ c ∉ b ∧ s = a ++ b := by
  constructor
  · intro h
    have hs := throughLast_append h
    obtain ⟨x, y, hx, hc⟩ :=
      exists_last_of_mem (hs ▸ List.mem_append_left b (LetterRange.mem_of_throughLast h).1)
    rw [hx, throughLast_append_cons x hc] at h
    obtain ⟨rfl, rfl⟩ := Prod.mk.inj (Option.some.inj h)
    exact ⟨x, rfl, hc, hs.symm⟩
  · rintro ⟨x, rfl, hb, rfl⟩
    rw [List.append_assoc]
    exact throughLast_append_cons x hb

theorem rtakeWhile_append_cons (s : Text) (h : c ∉ t) :
    (s ++ c :: t).rtakeWhile (· ≠ c) = t := by
  have ht : ∀ d ∈ t.reverse, decide (d ≠ c) = true := ne_of_not_mem (mt List.mem_reverse.1 h)
  rw [List.rtakeWhile, List.reverse_append, List.reverse_cons, List.append_assoc,
    List.takeWhile_append_of_pos ht, List.singleton_append,
    List.takeWhile_cons_of_neg (by simp), List.append_nil, List.reverse_reverse]

end Text

theorem Matcher.replace_append {α : Type} {m : Matcher α} (change : α → Option Text) {p s : Text}
    (h : ∀ x y, p = x ++ y → y ≠ [] → m.run (y ++ s) = none) :
    m.replace change (p ++ s) =
      ⟨p ++ (m.replace change s).content, (m.replace change s).hits⟩ := by
  induction p with
  | nil => rfl
  | cons c p ih =>
    have hp := ih fun x y hxy hy ↦ h (c :: x) y (congrArg (c :: ·) hxy) hy
    have hc : m.run (c :: (p ++ s)) = none := h [] (c :: p) rfl (List.cons_ne_nil c p)
    rw [List.cons_append, m.replace_of_not_run change hc, hp]
    rfl

namespace Declaration

variable {extent : ParenExtent} {s p t m q : Text}

theorem cut?_greedy (m : Text) (hq : ')' ∉ q) :
    ParenExtent.greedy.cut? (m ++ ')' :: q) = some (m ++ [')'], q) :=
  Text.throughLast_append_cons m hq

theorem cut?_first (hm : ')' ∉ m) (q : Text) :
    ParenExtent.first.cut? (m ++ ')' :: q) = some (m ++ [')'], q) :=
  Text.throughFirst_append_cons hm q

theorem mem_of_cut? {a r : Text} (h : extent.cut? s = some (a, r)) : ')' ∈ a := by
  cases extent with
  | greedy => exact (LetterRange.mem_of_throughLast h).1
  | first => exact Text.mem_of_throughFirst h

theorem run_words (ht : '\n' ∉ t) :
    (matcher extent).run (words ++ t) = (extent.cut? t).map fun p ↦ (words ++ p.1, p.2) := by
  change read? extent (words ++ t) = _
  rw [read?, Text.strip?_eq_some_iff.2 rfl, Option.bind_some, Text.line_eq_self ht,
    Text.afterLine_eq_nil ht]
  simp

theorem run_of_not_isPrefix (h : ¬words <+: s) : (matcher extent).run s = none := by
  cases hr : (matcher extent).run s with
  | none => rfl
  | some p =>
    obtain ⟨t, ht, -⟩ := Option.bind_eq_some_iff.1 hr
    exact absurd ⟨t, (Text.strip?_eq_some_iff.1 ht).symm⟩ h

theorem run_of_not_mem (h : ')' ∉ s) : (matcher extent).run s = none := by
  cases hr : (matcher extent).run s with
  | none => rfl
  | some p =>
    obtain ⟨t, -, hcut⟩ := Option.bind_eq_some_iff.1 hr
    obtain ⟨⟨a, r⟩, ha, hp⟩ := Option.map_eq_some_iff.1 hcut
    obtain rfl := hp
    rw [← (read?_eq_some hr).1] at h
    simp [mem_of_cut? ha] at h

theorem setDefault_of_not_mem (w : Whitelist) (h : ')' ∉ s) : setDefault extent w s = ⟨s, 0⟩ :=
  setDefault_of_tails extent w fun _ ht ↦
    run_of_not_mem fun hm ↦ h (((List.mem_tails _ _).1 ht).subset hm)

theorem setDefault_of_not_isInfix (w : Whitelist) (h : ¬words <:+: s) :
    setDefault extent w s = ⟨s, 0⟩ :=
  setDefault_of_tails extent w fun _ ht ↦
    run_of_not_isPrefix fun hw ↦ h (hw.isInfix.trans ((List.mem_tails _ _).1 ht).isInfix)

theorem setDefault_of_dropInfix? (w : Whitelist) (h : s.dropInfix? words = some (p, t)) :
    setDefault extent w s = ⟨p ++ (setDefault extent w (words ++ t)).content,
      (setDefault extent w (words ++ t)).hits⟩ := by
  obtain ⟨rfl, hfirst⟩ := Text.dropInfix?_iff.1 h
  rw [List.append_assoc]
  refine Matcher.replace_append _ fun x y hxy hy ↦ run_of_not_isPrefix fun ⟨z, hz⟩ ↦ ?_
  have hle : p.length ≤ x.length := by
    refine hfirst x ⟨z, ?_⟩
    rw [List.append_assoc, hz, hxy]
    simp
  have hpos := List.length_pos_iff.2 hy
  rw [hxy, List.length_append] at hle
  omega

theorem setDefault_of_not_mem_behind (w : Whitelist) (h : s.dropInfix? words = some (p, t))
    (ht : ')' ∉ t) : setDefault extent w s = ⟨s, 0⟩ := by
  have hw : ')' ∉ words ++ t := List.not_mem_append (by decide) ht
  rw [setDefault_of_dropInfix? w h, setDefault_of_not_mem w hw, (Text.dropInfix?_iff.1 h).1,
    List.append_assoc]

theorem setDefault_of_cut? (w : Whitelist) (hs : '\n' ∉ s) (h : s.dropInfix? words = some (p, t))
    {a r : Text} (hc : extent.cut? t = some (a, r)) :
    setDefault extent w s = ⟨p ++ withDefault w ++ (setDefault extent w r).content,
      1 + (setDefault extent w r).hits⟩ := by
  have ht : '\n' ∉ t := fun hm ↦
    hs ((Text.dropInfix?_iff.1 h).1 ▸ List.mem_append_right (p ++ words) hm)
  have hr : (matcher extent).run (words ++ t) = some (words ++ a, r) := by
    rw [run_words ht, hc]
    rfl
  have hw : setDefault extent w (words ++ t) =
      ⟨withDefault w ++ (setDefault extent w r).content, 1 + (setDefault extent w r).hits⟩ := by
    rw [setDefault, Matcher.replace_of_run _ _ hr]
    rfl
  rw [setDefault_of_dropInfix? w h, hw, List.append_assoc]

end Declaration

end LiteralPatch
