import LiteralPatch.Proofs.Escape
import LiteralPatch.Proofs.LetterRange.Quoted
import LiteralPatch.Proofs.Literal.Lockstep

namespace LiteralPatch

namespace LetterRange

variable {q : Char}

theorem exists_of_append_cons {a b s t : Text} (h : a ++ q :: b = s ++ t) :
    (∃ s', s = a ++ q :: s' ∧ b = s' ++ t) ∨ ∃ a', a = s ++ a' ∧ t = a' ++ q :: b := by
  rcases List.append_eq_append_iff.1 h with ⟨s', rfl, hs⟩ | ⟨a', rfl, ht⟩
  · rcases List.cons_eq_append_iff.1 hs with ⟨rfl, rfl⟩ | ⟨s'', rfl, rfl⟩
    · exact .inr ⟨[], by simp, rfl⟩
    · exact .inl ⟨s'', rfl, rfl⟩
  · exact .inr ⟨a', rfl, ht⟩

theorem exists_behind {a b s t : Text} (hs : q ∉ s) (h : a ++ q :: b = s ++ t) :
    ∃ a', a = s ++ a' ∧ t = a' ++ q :: b := by
  rcases exists_of_append_cons h with ⟨s', rfl, -⟩ | h
  · simp at hs
  · exact h

theorem HasQuotedRange.congr {x m m' y : Text} (hm : q ∉ m) (hr : HasRange m')
    (h : HasQuotedRange q (x ++ m ++ y)) : HasQuotedRange q (x ++ m' ++ y) := by
  obtain ⟨a, b, c, he, hb⟩ := h
  rw [List.append_assoc] at he
  rcases exists_of_append_cons he.symm with ⟨x', rfl, hx⟩ | ⟨a', rfl, hy⟩
  · rcases exists_of_append_cons hx with ⟨x'', rfl, rfl⟩ | ⟨b', rfl, hy⟩
    · exact ⟨a, b, x'' ++ m' ++ y, by simp, hb⟩
    · obtain ⟨b'', rfl, rfl⟩ := exists_behind hm hy.symm
      exact ⟨a, x' ++ m' ++ b'', c, by simp, hr.of_infix ⟨x', b'', rfl⟩⟩
  · obtain ⟨a'', rfl, rfl⟩ := exists_behind hm hy.symm
    exact ⟨x ++ m' ++ a'', b, c, by simp, hb⟩

theorem mark_not_mem_of_mem_spellings (q : Quote) {r : Text} (hr : r ∈ spellings) :
    q.mark ∉ r := by
  revert r
  cases q <;> decide

variable {q : Quote} {insert : Text}

theorem hits_apply_range_apply_range_line (q' : Quote) (insert' : Text) {l : Text}
    (hl : '\n' ∉ l) (hm : q.mark ∉ insert) (hn : '\n' ∉ insert) :
    ((Rule.mk q .range insert').apply ((Rule.mk q' .range insert).apply l).content).hits =
      ((Rule.mk q .range insert').apply l).hits := by
  simp only [apply_range]
  by_cases h' : HasQuotedRange q'.mark l
  · obtain ⟨⟨x, r, y⟩, ⟨⟨hs, hr, -, -⟩, -⟩, hc⟩ := replace_line hl h' insert
    obtain rfl : x ++ r ++ y = l := hs
    rw [hc, Rule.insertInCut, List.append_assoc x]
    have hi : HasRange (r ++ insert) := ⟨r, hr, (List.prefix_append r insert).isInfix⟩
    have hri : q.mark ∉ r ++ insert := by
      simpa using ⟨mark_not_mem_of_mem_spellings q hr, hm⟩
    have hl' : '\n' ∉ x ++ (r ++ insert) ++ y := by
      simp only [List.mem_append, not_or] at hl ⊢
      exact ⟨⟨hl.1.1, hl.1.2, hn⟩, hl.2⟩
    by_cases h : HasQuotedRange q.mark (x ++ r ++ y)
    · obtain ⟨_, -, hc₁⟩ := replace_line hl h insert'
      obtain ⟨_, -, hc₂⟩ :=
        replace_line hl' (h.congr (mark_not_mem_of_mem_spellings q hr) hi) insert'
      rw [hc₁, hc₂]
    · have h₂ : ¬HasQuotedRange q.mark (x ++ (r ++ insert) ++ y) :=
        fun h₂ ↦ h (h₂.congr hri ⟨r, hr, List.infix_rfl⟩)
      rw [replace_line_of_not hl h, replace_line_of_not hl' h₂]
  · rw [replace_line_of_not hl h']

theorem hits_apply_range_apply_range (q' : Quote) (insert' : Text) (hm : q.mark ∉ insert)
    (hn : '\n' ∉ insert) (s : Text) :
    ((Rule.mk q .range insert').apply ((Rule.mk q' .range insert).apply s).content).hits =
      ((Rule.mk q .range insert').apply s).hits := by
  have hq : (matcher q.mark).LineLocal := lineLocal_matcher q.mark_ne_newline
  have hq' : (matcher q'.mark).LineLocal := lineLocal_matcher q'.mark_ne_newline
  induction s using Text.line_induction with
  | line l hl => exact hits_apply_range_apply_range_line q' insert' hl hm hn
  | cons l t hl ih =>
    have hline := hits_apply_range_apply_range_line q' insert' hl hm hn
    simp only [apply_range] at hline ih ⊢
    rw [hq'.replace_append, hq.replace_append, hq.replace_append]
    simp only [hline, ih]

end LetterRange

namespace Rule

open Literal LetterRange

theorem applyAll_both (w : Whitelist) (anchor : Anchor) (s : Text) :
    applyAll (both w anchor) s =
      let first := (ofWhitelist w anchor .double).apply s
      let second := (ofWhitelist w anchor .single).apply first.content
      ⟨second.content, first.hits + second.hits⟩ := rfl

/-- Without single quotes and line feeds in the whitelist the rule pair has the hits that its
rules have on the text itself. Behind letters it also inserts what they insert there, and where
both insert behind one letter the text for single quotes comes first. -/
theorem applyAll_both_eq_alone (w : Whitelist) (hq : '\'' ∉ w.raw) (hw : '\n' ∉ w.raw)
    (s : Text) :
    (∀ anchor, (applyAll (both w anchor) s).hits =
      ((ofWhitelist w anchor .double).apply s).hits +
        ((ofWhitelist w anchor .single).apply s).hits) ∧
    (∀ q, ((ofWhitelist w .letter q).apply s).content =
      s.insertBehind fun i ↦ if i ∈ letters q s then w.escaped q else []) ∧
    (applyAll (both w .letter) s).content =
      s.insertBehind fun i ↦ (if i ∈ letters .single s then w.escaped .single else []) ++
        if i ∈ letters .double s then w.escaped .double else [] := by
  have hi : Body .single (w.escaped .double) := Quote.body_escape_of_not_mem _ hq hw
  have hm : Quote.single.mark ∉ w.escaped .double :=
    Quote.not_mem_escape _ (by decide) hq
  have hn : '\n' ∉ w.escaped .double := Quote.not_mem_escape _ (by decide) hw
  have hc : InSync .code .code := trivial
  refine ⟨fun anchor ↦ ?_, fun q ↦ ?_, ?_⟩
  · rw [applyAll_both]
    cases anchor with
    | letter =>
      have hp := hc.lettersFrom_pass (by decide : Quote.single ≠ .double) hi hm s
      simp only [ofWhitelist, apply_letter, letters_eq_lettersFrom, hp, List.length_map]
    | range =>
      simp only [ofWhitelist]
      rw [hits_apply_range_apply_range _ _ hm hn]
  · rw [ofWhitelist, apply_letter, letters_eq_lettersFrom]
    rfl
  · rw [applyAll_both]
    simp only [ofWhitelist, apply_letter, letters_eq_lettersFrom]
    exact hc.pass_pass (by decide) hi hm _ s

theorem applyAll_both_eq_alone_double_quote :
    '\'' ∉ (['"'] : Text) ∧ '\n' ∉ (['"'] : Text) ∧
      applyAll (both ⟨['"']⟩ .letter) ['"', '\'', 'a', '"', '\''] =
        ⟨['"', '\'', 'a', '"', '\\', '"', '"', '\''], 2⟩ ∧
      ((ofWhitelist ⟨['"']⟩ .letter .double).apply ['"', '\'', 'a', '"', '\'']).hits +
        ((ofWhitelist ⟨['"']⟩ .letter .single).apply ['"', '\'', 'a', '"', '\'']).hits = 2 ∧
      Text.insertBehind (fun i ↦
        (if i ∈ letters .single ['"', '\'', 'a', '"', '\''] then ['"'] else []) ++
          if i ∈ letters .double ['"', '\'', 'a', '"', '\''] then ['\\', '"'] else [])
          ['"', '\'', 'a', '"', '\''] =
        ['"', '\'', 'a', '"', '\\', '"', '"', '\''] := by
  have hq : '\'' ∉ (⟨['"']⟩ : Whitelist).raw := by decide
  have hw : '\n' ∉ (⟨['"']⟩ : Whitelist).raw := by decide
  have hout : applyAll (both ⟨['"']⟩ .letter) ['"', '\'', 'a', '"', '\''] =
      ⟨['"', '\'', 'a', '"', '\\', '"', '"', '\''], 2⟩ := by decide +kernel
  obtain ⟨hhits, -, hcontent⟩ :=
    applyAll_both_eq_alone ⟨['"']⟩ hq hw ['"', '\'', 'a', '"', '\'']
  have hletter := hhits .letter
  rw [hout] at hletter hcontent
  exact ⟨hq, hw, hout, hletter.symm, hcontent.symm⟩

end Rule

end LiteralPatch
