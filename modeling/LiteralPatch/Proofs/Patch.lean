import LiteralPatch.Proofs.LetterRange.Quoted
import LiteralPatch.Proofs.Literal.Units
import LiteralPatch.Settings
import Mathlib.Data.List.Infix

namespace LiteralPatch

def Edit.join (c : Char) (e e' : Edit) : Edit := ⟨e.content ++ c :: e'.content, e.hits + e'.hits⟩

theorem Text.strip?_append_newline {p : Text} (hp : '\n' ∉ p) (s t : Text) :
    strip? p (s ++ '\n' :: t) = (strip? p s).map (· ++ '\n' :: t) := by
  fun_induction strip? p s with
  | case1 s => simp [strip?]
  | case2 p d s ih =>
    rw [List.cons_append, strip?, if_pos rfl]
    exact ih fun hm ↦ hp (List.mem_cons_of_mem d hm)
  | case3 c p d s h => rw [List.cons_append, strip?, if_neg h, Option.map_none]
  | case4 c p =>
    have hc : c ≠ '\n' := fun hc ↦ hp (hc ▸ List.mem_cons_self)
    rw [List.nil_append, strip?, if_neg hc, Option.map_none]

namespace Matcher

variable {α : Type} {m : Matcher α} {s r : Text} {a : α} {change : α → Option Text}

def OnOneLine (m : Matcher α) : Prop := ∀ s a, .span a ∈ m.segments s → '\n' ∉ m.spell a

theorem exists_run_of_span_mem (h : .span a ∈ m.segments s) : ∃ t r, m.run t = some (a, r) := by
  induction s using m.induction with
  | nil => simp [m.segments_nil] at h
  | plain c s hr ih =>
    rw [m.segments_of_not_run hr, List.mem_cons] at h
    exact ih (h.resolve_left nofun)
  | span b s r hr ih =>
    rw [m.segments_of_run hr, List.mem_cons] at h
    rcases h with h | h
    · obtain rfl := Segment.span.inj h
      exact ⟨s, r, hr⟩
    · exact ih h

theorem LineLocal.onOneLine (h : m.LineLocal) : m.OnOneLine := by
  intro s a ha hm
  obtain ⟨t, r, hr⟩ := exists_run_of_span_mem ha
  obtain ⟨x, y, hxy⟩ := List.append_of_mem hm
  have ht : t = x ++ '\n' :: (y ++ r) := by
    rw [← m.spell_append hr, hxy, List.append_assoc, List.cons_append]
  -- The part before the line feed would hold the whole span already.
  rw [ht, h] at hr
  obtain ⟨⟨a', r'⟩, hx, he⟩ := Option.map_eq_some_iff.1 hr
  obtain ⟨rfl, -⟩ := Prod.mk.inj he
  have hl := congrArg List.length (m.spell_append hx)
  rw [hxy] at hl
  simp only [List.length_append, List.length_cons] at hl
  omega

theorem replace_eq_self (change : α → Option Text) (h : ∀ t ∈ s.tails, m.run t = none) :
    m.replace change s = ⟨s, 0⟩ := by
  induction s with
  | nil => exact m.replace_nil change
  | cons c s ih =>
    rw [List.tails_cons, List.forall_mem_cons] at h
    rw [m.replace_of_not_run change h.1, ih h.2]

theorem hits_replace_pos (hr : m.run s = some (a, r)) (hc : (change a).isSome = true) :
    0 < (m.replace change s).hits := by
  obtain ⟨x, hx⟩ := Option.isSome_iff_exists.1 hc
  rw [m.replace_of_run change hr, hx, Option.toList_some, List.length_singleton]
  exact Nat.add_pos_left Nat.one_pos _

end Matcher

namespace Literal

variable (q : Quote)

theorem close?_append_newline (s t : Text) :
    close? q.mark (s ++ '\n' :: t) = (close? q.mark s).map fun p ↦ (p.1, p.2 ++ '\n' :: t) := by
  fun_induction close? q.mark s with
  | case1 => simp [close?, q.mark_ne_newline.symm]
  | case2 => simp [close?]
  | case3 s => simp [close?]
  | case4 c s hc ih =>
    rw [List.cons_append, List.cons_append, close?_taken _ hc, ih, Option.map_map, Option.map_map]
    rfl
  | case5 s => rw [List.cons_append, close?_mark, Option.map_some]
  | case6 s => simp [close?, q.mark_ne_newline.symm]
  | case7 c s hn hn' hc hl ih =>
    rw [List.cons_append, close?_bare _ ⟨hc, hl⟩ (ne_backslash_of_forall hn hn'), ih,
      Option.map_map, Option.map_map]
    rfl

theorem lineLocal_matcher : (matcher q.mark).LineLocal := by
  intro s t
  change read? q.mark (s ++ '\n' :: t) = (read? q.mark s).map _
  cases s with
  | nil => simp [read?, q.mark_ne_newline.symm]
  | cons c s =>
    rw [List.cons_append, read?, read?]
    split
    · rw [close?_append_newline, Option.map_map, Option.map_map]
      rfl
    · rfl

end Literal

namespace Declaration

variable (extent : ParenExtent)

theorem lineLocal_matcher : (matcher extent).LineLocal := by
  intro s t
  change read? extent (s ++ '\n' :: t) = (read? extent s).map _
  rw [read?, read?, Text.strip?_append_newline (by decide)]
  cases Text.strip? words s with
  | none => rfl
  | some r =>
    simp only [Option.map_some, Option.bind_some, Text.line_append_newline,
      Text.afterLine_append_newline, Option.map_map, Function.comp_def, List.append_assoc]

theorem setDefault_of_tails (w : Whitelist) {s : Text} (h : ∀ t ∈ s.tails, read? extent t = none) :
    setDefault extent w s = ⟨s, 0⟩ :=
  Matcher.replace_eq_self _ h

theorem hits_setDefault_pos (w : Whitelist) {c : Char} (hc : c ≠ '\n') :
    0 < (setDefault extent w (words ++ c :: [')'])).hits := by
  have hline : '\n' ∉ [c, ')'] := by simp [Ne.symm hc]
  have hcut : (extent.cut? [c, ')']).isSome = true := by
    cases extent with
    | greedy => exact LetterRange.isSome_throughLast_iff.2 (by simp)
    | first =>
      rw [ParenExtent.cut?, Text.throughFirst]
      split <;> simp [Text.throughFirst]
  obtain ⟨⟨a, r⟩, ha⟩ := Option.isSome_iff_exists.1 hcut
  have hrun : (matcher extent).run (words ++ [c, ')']) = some (words ++ a, r) := by
    change read? extent (words ++ [c, ')']) = _
    rw [read?, Text.strip?_eq_some_iff.2 rfl, Option.bind_some, Text.line_eq_self hline,
      Text.afterLine_eq_nil hline, ha]
    simp
  exact Matcher.hits_replace_pos hrun rfl

end Declaration

namespace Rule

theorem apply_append_newline (rule : Rule) (a b : Text) :
    rule.apply (a ++ '\n' :: b) = (rule.apply a).join '\n' (rule.apply b) := by
  rw [apply, apply, apply]
  cases rule.anchor with
  | letter => exact (Literal.lineLocal_matcher rule.quote).replace_append _ a b
  | range =>
    exact (LetterRange.lineLocal_matcher rule.quote.mark_ne_newline).replace_append _ a b

theorem applyAll_cons (rule : Rule) (rules : List Rule) (s : Text) :
    applyAll (rule :: rules) s =
      ⟨(applyAll rules (rule.apply s).content).content,
        (rule.apply s).hits + (applyAll rules (rule.apply s).content).hits⟩ := rfl

/-- A later rule may come to line feeds that an earlier one put in, and does not look past them
either. -/
theorem applyAll_append_newline (rules : List Rule) (a b : Text) :
    applyAll rules (a ++ '\n' :: b) = (applyAll rules a).join '\n' (applyAll rules b) := by
  induction rules generalizing a b with
  | nil => rfl
  | cons rule rules ih =>
    rw [applyAll_cons, applyAll_cons, applyAll_cons, apply_append_newline, Edit.join, ih]
    simp only [Edit.join, Edit.mk.injEq, true_and]
    omega

variable {w : Whitelist} {anchor : Anchor} {s : Text}

theorem applyAll_both_of_tails
    (h : ∀ q : Quote, ∀ t ∈ s.tails,
      Literal.read? q.mark t = none ∧ LetterRange.quoted? q.mark t = none) :
    applyAll (both w anchor) s = ⟨s, 0⟩ := by
  have hself (q : Quote) : (ofWhitelist w anchor q).apply s = ⟨s, 0⟩ := by
    cases anchor with
    | letter =>
      exact Matcher.replace_eq_self (m := Literal.matcher q.mark) _ fun t ht ↦ (h q t ht).1
    | range =>
      exact Matcher.replace_eq_self (m := LetterRange.matcher q.mark) _ fun t ht ↦ (h q t ht).2
  rw [both, applyAll_cons, applyAll_cons, hself, hself]
  rfl

theorem exists_literal {c : Char} (hc : c ≠ '\n') :
    ∃ x r, Literal.Body .double ('x' :: x) ∧
      ['"', 'x'] ++ c :: "a-zA-Z\"".toList = '"' :: 'x' :: x ++ ['"'] ++ r := by
  have hrange : Literal.Body .double "a-zA-Z".toList := .of_forall (by simp [Quote.mark])
  have hx {b : Text} (hb : Literal.Body .double b) : Literal.Body .double ('x' :: b) :=
    .bare (by decide) (by decide) hb
  by_cases hq : c = '"'
  · subst hq
    exact ⟨[], "a-zA-Z\"".toList, hx .nil, rfl⟩
  · by_cases hb : c = '\\'
    · subst hb
      refine ⟨'\\' :: "a-zA-Z".toList, [], hx (.taken (by decide) ?_), rfl⟩
      exact .of_forall (b := "-zA-Z".toList) (by simp [Quote.mark])
    · exact ⟨c :: "a-zA-Z".toList, [], hx (.bare ⟨hq, hc⟩ hb hrange), rfl⟩

theorem hits_apply_pos (w : Whitelist) (anchor : Anchor) {c : Char} (hc : c ≠ '\n') :
    0 < ((ofWhitelist w anchor .double).apply (['"', 'x'] ++ c :: "a-zA-Z\"".toList)).hits := by
  cases anchor with
  | letter =>
    obtain ⟨x, r, hb, hs⟩ := exists_literal hc
    have hrun := Literal.read?_eq_some_iff.2 ⟨_, hb, rfl, hs⟩
    refine Matcher.hits_replace_pos (m := Literal.matcher '"') hrun ?_
    simp [insertInLiteral?, Literal.split?, Literal.cutAtLetter?]
  | range =>
    have hline : '\n' ∉ ['"', 'x'] ++ c :: "a-zA-Z\"".toList := by simp [Ne.symm hc]
    have hrange : LetterRange.HasRange ('x' :: c :: "a-zA-Z".toList) :=
      ⟨"a-zA-Z".toList, by decide, ['x', c], [], rfl⟩
    obtain ⟨_, -, he⟩ := LetterRange.replace_line (q := '"') hline
      ⟨[], _, [], rfl, hrange⟩ (w.escaped .double)
    have hhits := congrArg Edit.hits he
    exact hhits ▸ Nat.one_pos

end Rule

namespace Settings

variable {cfg : Settings} {kind : FileKind} {c : Char}

theorem patch_targeted (cfg : Settings) (s : Text) :
    (cfg.patch .targeted s).toEdit = Declaration.setDefault cfg.extent cfg.whitelist s := rfl

theorem patch_generic (cfg : Settings) (s : Text) :
    (cfg.patch .generic s).toEdit = Rule.applyAll (Rule.both cfg.whitelist cfg.anchor) s := rfl

theorem patch_append_newline (cfg : Settings) (kind : FileKind) (a b : Text) :
    (cfg.patch kind (a ++ '\n' :: b)).toEdit =
      (cfg.patch kind a).toEdit.join '\n' (cfg.patch kind b).toEdit := by
  cases kind with
  | targeted => exact (Declaration.lineLocal_matcher cfg.extent).replace_append _ a b
  | generic => exact Rule.applyAll_append_newline (Rule.both cfg.whitelist cfg.anchor) a b

theorem exists_patch_ne_join (cfg : Settings) (kind : FileKind) (hc : c ≠ '\n') :
    ∃ a b, (cfg.patch kind (a ++ c :: b)).toEdit ≠
      (cfg.patch kind a).toEdit.join c (cfg.patch kind b).toEdit := by
  cases kind with
  | targeted =>
    have hwords : ∀ extent, ∀ t ∈ Declaration.words.tails, Declaration.read? extent t = none := by
      intro extent
      cases extent <;> decide
    have hparen : ∀ extent, ∀ t ∈ [')'].tails, Declaration.read? extent t = none := by
      intro extent
      cases extent <;> decide
    refine ⟨Declaration.words, [')'], fun he ↦ ?_⟩
    rw [patch_targeted, patch_targeted, patch_targeted,
      Declaration.setDefault_of_tails _ _ (hwords cfg.extent),
      Declaration.setDefault_of_tails _ _ (hparen cfg.extent)] at he
    have hpos := Declaration.hits_setDefault_pos cfg.extent cfg.whitelist hc
    rw [he] at hpos
    exact Nat.lt_irrefl 0 hpos
  | generic =>
    have hopen : ∀ q : Quote, ∀ t ∈ (['"', 'x'] : Text).tails,
        Literal.read? q.mark t = none ∧ LetterRange.quoted? q.mark t = none := by
      intro q
      cases q <;> decide
    have hclose : ∀ q : Quote, ∀ t ∈ "a-zA-Z\"".toList.tails,
        Literal.read? q.mark t = none ∧ LetterRange.quoted? q.mark t = none := by
      intro q
      cases q <;> decide
    refine ⟨['"', 'x'], "a-zA-Z\"".toList, fun he ↦ ?_⟩
    rw [patch_generic, patch_generic, patch_generic,
      Rule.applyAll_both_of_tails hopen, Rule.applyAll_both_of_tails hclose] at he
    have hpos := Rule.hits_apply_pos cfg.whitelist cfg.anchor hc
    have hsum := congrArg Edit.hits he
    rw [Rule.both, Rule.applyAll_cons] at hsum
    simp only [Edit.join] at hsum
    omega

/-- Of all characters just the line feed cuts texts into parts that are edited one by one, whatever
the edit is; and no match of any search goes across one. -/
theorem patch_join_iff_newline (cfg : Settings) (kind : FileKind) :
    (∀ c, (∀ a b, (cfg.patch kind (a ++ c :: b)).toEdit =
      (cfg.patch kind a).toEdit.join c (cfg.patch kind b).toEdit) ↔ c = '\n') ∧
    (∀ q : Quote, (Literal.matcher q.mark).OnOneLine ∧ (LetterRange.matcher q.mark).OnOneLine) ∧
    ∀ extent, (Declaration.matcher extent).OnOneLine := by
  refine ⟨fun c ↦ ⟨fun h ↦ ?_, ?_⟩, fun q ↦ ⟨?_, ?_⟩, fun extent ↦ ?_⟩
  · by_contra hc
    obtain ⟨a, b, hne⟩ := cfg.exists_patch_ne_join kind hc
    exact hne (h a b)
  · rintro rfl
    exact cfg.patch_append_newline kind
  · exact (Literal.lineLocal_matcher q).onOneLine
  · exact (LetterRange.lineLocal_matcher q.mark_ne_newline).onOneLine
  · exact (Declaration.lineLocal_matcher extent).onOneLine

end Settings

end LiteralPatch
