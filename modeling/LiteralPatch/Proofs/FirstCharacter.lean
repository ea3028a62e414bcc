import LiteralPatch.Proofs.Patch

namespace LiteralPatch

/-- An edit of spans that leaves their first characters alone leaves that of the text alone. -/
theorem Matcher.head?_replace {α : Type} (m : Matcher α) {change : α → Option Text}
    (h : ∀ s a r x, m.run s = some (a, r) → change a = some x → x.head? = (m.spell a).head?)
    (s : Text) : (m.replace change s).content.head? = s.head? := by
  cases s with
  | nil => rw [m.replace_nil]
  | cons c s =>
    cases hr : m.run (c :: s) with
    | none => rw [m.replace_of_not_run change hr, List.head?_cons, List.head?_cons]
    | some p =>
      obtain ⟨a, r⟩ := p
      have ha : ((change a).getD (m.spell a)).head? = (m.spell a).head? := by
        cases hc : change a with
        | none => rfl
        | some x => exact h _ a r x hr hc
      have hne : (m.spell a).head? ≠ none := by simpa using m.spell_ne_nil hr
      rw [m.replace_of_run change hr, ← m.spell_append hr, List.head?_append, List.head?_append, ha]
      cases hs : (m.spell a).head? with
      | none => exact absurd hs hne
      | some d => rfl

namespace Rule

theorem head?_insertInLiteral? {insert a x : Text} (h : insertInLiteral? insert a = some x) :
    x.head? = a.head? := by
  obtain ⟨k, hk, rfl⟩ := Option.map_eq_some_iff.1 h
  cases a with
  | nil => cases hk
  | cons c s =>
    obtain ⟨k', -, rfl⟩ := Option.map_eq_some_iff.1 hk
    rfl

theorem head?_insertInCut {q : Char} {s r : Text} {k : LetterRange.Cut}
    (h : LetterRange.quoted? q s = some (k, r)) (insert : Text) :
    (insertInCut insert k).head? = k.spell.head? := by
  cases s with
  | nil => cases h
  | cons c s =>
    rw [LetterRange.quoted?] at h
    split at h
    · obtain ⟨⟨k', r'⟩, -, he⟩ := Option.map_eq_some_iff.1 h
      obtain ⟨rfl, -⟩ := Prod.mk.inj he
      rfl
    · cases h

theorem head?_apply (rule : Rule) (s : Text) : (rule.apply s).content.head? = s.head? := by
  rw [apply]
  cases rule.anchor with
  | letter => exact Matcher.head?_replace _ (fun _ _ _ _ _ hc ↦ head?_insertInLiteral? hc) s
  | range =>
    refine Matcher.head?_replace _ (fun t k r x hr hc ↦ ?_) s
    obtain rfl := Option.some.inj hc
    exact head?_insertInCut hr _

theorem head?_applyAll (rules : List Rule) (s : Text) :
    (applyAll rules s).content.head? = s.head? := by
  induction rules generalizing s with
  | nil => rfl
  | cons rule rules ih => exact (ih _).trans (rule.head?_apply s)

end Rule

theorem Declaration.head?_withDefault {extent : ParenExtent} {s a r : Text}
    (h : read? extent s = some (a, r)) (w : Whitelist) : (withDefault w).head? = a.head? := by
  obtain ⟨t, -, hr⟩ := Option.bind_eq_some_iff.1 h
  obtain ⟨⟨x, y⟩, -, he⟩ := Option.map_eq_some_iff.1 hr
  obtain ⟨rfl, -⟩ := Prod.mk.inj he
  rfl

namespace Settings

theorem head?_patch (cfg : Settings) (kind : FileKind) (s : Text) :
    (cfg.patch kind s).content.head? = s.head? := by
  cases kind with
  | targeted =>
    refine Matcher.head?_replace _ (fun t a r x hr hc ↦ ?_) s
    obtain rfl := Option.some.inj hc
    exact Declaration.head?_withDefault hr cfg.whitelist
  | generic => exact Rule.head?_applyAll (Rule.both cfg.whitelist cfg.anchor) s

theorem patch_nil (cfg : Settings) (kind : FileKind) : (cfg.patch kind []).content = [] :=
  List.head?_eq_none_iff.1 (cfg.head?_patch kind [])

theorem exists_patch_cons (cfg : Settings) (kind : FileKind) (c : Char) (s : Text) :
    ∃ t, (cfg.patch kind (c :: s)).content = c :: t :=
  List.head?_eq_some_iff.1 (cfg.head?_patch kind (c :: s))

end Settings

end LiteralPatch
