import LiteralPatch.Proofs.Escape
import LiteralPatch.Proofs.Literal.Pass
import Mathlib.Data.List.Forall2

namespace LiteralPatch

namespace Literal

variable {q q' : Quote} {insert : Text}

/-- A literal and what the rule makes of it: the text stands right behind the first free letter,
if there is one. -/
inductive Inserted (q : Quote) (insert : Text) : Text → Text → Prop
  | letterless {b : Text} : Letterless q b →
      Inserted q insert (q.mark :: b ++ [q.mark]) (q.mark :: b ++ [q.mark])
  | letter {x y : Text} {c : Char} : Letterless q x → c.isAlpha = true → Body q y →
      Inserted q insert (q.mark :: x ++ c :: (y ++ [q.mark]))
        (q.mark :: x ++ c :: (insert ++ y ++ [q.mark]))

def Widened (q : Quote) (a b : Text) : Prop :=
  ∃ x y, a = q.mark :: x ++ [q.mark] ∧ b = q.mark :: y ++ [q.mark] ∧ Body q x ∧ Body q y ∧
    x.Sublist y

def literals (q : Quote) (s : Text) : List Text :=
  ((matcher q.mark).segments s).filterMap Segment.span?

theorem Widened.trans {a b c : Text} (h : Widened q a b) (h' : Widened q b c) :
    Widened q a c := by
  obtain ⟨x, y, rfl, rfl, hx, -, hxy⟩ := h
  obtain ⟨y', z, he, rfl, -, hz, hyz⟩ := h'
  obtain rfl : y = y' := by simpa using he
  exact ⟨x, z, rfl, rfl, hx, hz, hxy.trans hyz⟩

theorem widened_trans {l m n : List Text} (h : List.Forall₂ (Widened q) l m)
    (h' : List.Forall₂ (Widened q) m n) : List.Forall₂ (Widened q) l n := by
  induction h generalizing n with
  | nil => exact h'
  | cons hab _ ih =>
    cases h' with
    | cons hbc ht => exact .cons (hab.trans hbc) (ih ht)

theorem spans_of_rel {α : Type} {R : α → α → Prop} {l m : List (Segment α)}
    (h : List.Forall₂ (Segment.Rel R) l m) :
    List.Forall₂ R (l.filterMap Segment.span?) (m.filterMap Segment.span?) := by
  induction h with
  | nil => exact .nil
  | cons hr _ ih =>
    cases hr with
    | plain c => exact ih
    | span hab => exact .cons hab ih

theorem body_letter {x y : Text} {c : Char} (hx : Letterless q x) (hc : c.isAlpha = true)
    (hy : Body q y) : Body q (x ++ c :: y) := by
  have hb : c ≠ q.mark ∧ c ≠ '\n' :=
    ⟨ne_of_isAlpha hc q.mark_not_alpha, ne_of_isAlpha hc newline_not_alpha⟩
  exact Units.append hx.body (.bare hb (ne_of_isAlpha hc backslash_not_alpha) hy)

theorem Inserted.widened (hi : Body q insert) {a b : Text} (h : Inserted q insert a b) :
    Widened q a b := by
  cases h with
  | @letterless b hb => exact ⟨b, b, rfl, rfl, hb.body, hb.body, .refl b⟩
  | @letter x y c hx hc hy =>
    have hs : (x ++ c :: y).Sublist (x ++ c :: (insert ++ y)) :=
      .append (.refl x) ((List.sublist_append_right insert y).cons_cons c)
    exact ⟨x ++ c :: y, x ++ c :: (insert ++ y), by simp, by simp, body_letter hx hc hy,
      body_letter hx hc (Units.append hi hy), hs⟩

theorem inserted_getD (insert : Text) {b : Text} (hb : Body q b) :
    Inserted q insert (q.mark :: b ++ [q.mark])
      ((Rule.insertInLiteral? insert (q.mark :: b ++ [q.mark])).getD
        (q.mark :: b ++ [q.mark])) := by
  rcases hb.letterless_or_exists with h | ⟨x, c, y, rfl, hx, hc, hy⟩
  · rw [Rule.insertInLiteral?, h.split?_eq_none]
    exact .letterless h
  · have ha : q.mark :: (x ++ c :: y) ++ [q.mark] = q.mark :: x ++ c :: (y ++ [q.mark]) := by simp
    rw [ha, Rule.insertInLiteral?, hx.split?_letter hc]
    have hout : q.mark :: x ++ c :: insert ++ (y ++ [q.mark]) =
        q.mark :: x ++ c :: (insert ++ y ++ [q.mark]) := by simp
    simp only [Option.map_some, Option.getD_some, hout]
    exact .letter hx hc hy

theorem run_eq_none_iff {c : Char} {s : Text} :
    (matcher q.mark).run (c :: s) = none ↔ ¬(c = q.mark ∧ closes q s = true) := by
  change read? q.mark (c :: s) = none ↔ _
  rw [read?, closes]
  split <;> simp_all

theorem run_append {b : Text} (hb : Body q b) (s : Text) :
    (matcher q.mark).run (q.mark :: b ++ [q.mark] ++ s) = some (q.mark :: b ++ [q.mark], s) :=
  read?_eq_some_iff.2 ⟨b, hb, rfl, rfl⟩

theorem segments_pass (hi : Body q insert) (s : Text) :
    List.Forall₂ (Segment.Rel (Inserted q insert)) ((matcher q.mark).segments s)
      ((matcher q.mark).segments (pass q insert .code s)) := by
  have hpass (s : Text) : pass q insert .code s =
      ((matcher q.mark).replace (Rule.insertInLiteral? insert) s).content :=
    congrArg Edit.content (apply_letter q insert s).symm
  induction s using (matcher q.mark).induction with
  | nil =>
    rw [pass_nil, Matcher.segments_nil]
    exact .nil
  | plain c s hr ih =>
    have hc : pass q insert .code (c :: s) = c :: pass q insert .code s := by
      rw [hpass, Matcher.replace_of_not_run _ _ hr, ← hpass]
    -- What closes nothing before closes nothing now.
    have hr' : (matcher q.mark).run (c :: pass q insert .code s) = none := by
      rw [run_eq_none_iff, closes_pass hi rfl]
      exact run_eq_none_iff.1 hr
    rw [hc, Matcher.segments_of_not_run _ hr, Matcher.segments_of_not_run _ hr']
    exact .cons (.plain c) ih
  | span a s r hr ih =>
    obtain ⟨b, hb, rfl, rfl⟩ := read?_eq_some_iff.1 hr
    have hw := inserted_getD insert hb
    obtain ⟨-, y, -, hy, -, hyb, -⟩ := hw.widened hi
    have hc : pass q insert .code (q.mark :: b ++ [q.mark] ++ r) =
        q.mark :: y ++ [q.mark] ++ pass q insert .code r := by
      rw [hpass, Matcher.replace_of_run _ _ hr, ← hpass, ← hy]
      rfl
    rw [hc, Matcher.segments_of_run _ hr, Matcher.segments_of_run _ (run_append hyb _), ← hy]
    exact .cons (.span hw) ih

/-- The text behind a rule's first letters closes no literal early, leaves none open and opens
none: the scan of the result finds what it found before. -/
theorem segments_apply_letter (q : Quote) (w : Whitelist) (hw : '\n' ∉ w.raw) (s : Text) :
    List.Forall₂ (Segment.Rel (Inserted q (w.escaped q))) ((matcher q.mark).segments s)
      ((matcher q.mark).segments ((Rule.ofWhitelist w .letter q).apply s).content) := by
  rw [Rule.ofWhitelist, apply_letter]
  exact segments_pass (q.body_escape hw) s

theorem segments_apply_letter_backslash_quote :
    '\n' ∉ (['\\', '"'] : Text) ∧
      ((Rule.ofWhitelist ⟨['\\', '"']⟩ .letter .double).apply
        ['"', 'a', '"', 'x', '"']).content =
          ['"', 'a', '\\', '\\', '\\', '"', '"', 'x', '"'] ∧
      List.Forall₂ (Segment.Rel (Inserted .double ['\\', '\\', '\\', '"']))
        ((matcher '"').segments ['"', 'a', '"', 'x', '"'])
        ((matcher '"').segments ['"', 'a', '\\', '\\', '\\', '"', '"', 'x', '"']) := by
  have hw : '\n' ∉ (⟨['\\', '"']⟩ : Whitelist).raw := by decide
  have hout : ((Rule.ofWhitelist ⟨['\\', '"']⟩ .letter .double).apply
      ['"', 'a', '"', 'x', '"']).content =
        ['"', 'a', '\\', '\\', '\\', '"', '"', 'x', '"'] := by decide +kernel
  have h := segments_apply_letter .double ⟨['\\', '"']⟩ hw ['"', 'a', '"', 'x', '"']
  rw [hout] at h
  exact ⟨hw, hout, h⟩

theorem segments_append_of_not_mem {x : Text} (hx : q.mark ∉ x) (s : Text) :
    (matcher q.mark).segments (x ++ s) = x.map .plain ++ (matcher q.mark).segments s := by
  induction x with
  | nil => rfl
  | cons c x ih =>
    have hc : c ≠ q.mark := fun h ↦ hx (h ▸ List.mem_cons_self)
    have hr : (matcher q.mark).run (c :: (x ++ s)) = none :=
      run_eq_none_iff.2 fun h ↦ hc h.1
    rw [List.cons_append, Matcher.segments_of_not_run _ hr,
      ih fun h ↦ hx (List.mem_cons_of_mem c h)]
    rfl

theorem literals_append_of_not_mem {x : Text} (hx : q.mark ∉ x) (s : Text) :
    literals q (x ++ s) = literals q s := by
  have hp : (x.map fun c ↦ (.plain c : Segment Text)).filterMap Segment.span? = [] := by
    simp [Segment.span?]
  rw [literals, segments_append_of_not_mem hx, List.filterMap_append, hp]
  rfl

theorem exists_pass_body (hi : Body q insert) {b : Text} (hb : Body q b) {p : Place}
    (hp : p.isTaken = false) (r : Text) :
    ∃ y p', pass q' insert p (b ++ q.mark :: r) = y ++ q.mark :: pass q' insert p' r ∧
      Body q y ∧ b.Sublist y := by
  induction hb generalizing p with
  | nil =>
    refine ⟨[], p.next q' q.mark r, ?_, .nil, .refl []⟩
    exact pass_cons_of_not_alpha q.mark_not_alpha r
  | @bare c b hc hn _ ih =>
    obtain ⟨y, p', he, hy, hs⟩ := ih (Place.isTaken_next q' hn p (b ++ q.mark :: r))
    by_cases hf : p.finds c = true
    · refine ⟨c :: (insert ++ y), p', ?_, .bare hc hn (Units.append hi hy), ?_⟩
      · rw [List.cons_append, pass_cons, if_pos hf, he]
        simp
      · exact (hs.trans (List.sublist_append_right insert y)).cons_cons c
    · refine ⟨c :: y, p', ?_, .bare hc hn hy, hs.cons_cons c⟩
      rw [List.cons_append, pass_cons, if_neg hf, he]
      rfl
  | @taken c b hc _ ih =>
    obtain ⟨hf, ht⟩ := Place.next_backslash q' c hp (b ++ q.mark :: r)
    obtain ⟨y, p', he, hy, hs⟩ := ih ht
    refine ⟨'\\' :: c :: y, p', ?_, .taken hc hy, (hs.cons_cons c).cons_cons '\\'⟩
    rw [List.cons_append, List.cons_append, pass_cons_of_not_alpha (by decide), pass_cons, hf,
      if_neg Bool.false_ne_true, he]
    rfl

theorem literals_of_not_run {c : Char} {s : Text} (h : (matcher q.mark).run (c :: s) = none) :
    literals q (c :: s) = literals q s := by
  rw [literals, Matcher.segments_of_not_run _ h]
  rfl

theorem literals_of_run {a s r : Text} (h : (matcher q.mark).run s = some (a, r)) :
    literals q s = a :: literals q r := by
  rw [literals, Matcher.segments_of_run _ h]
  rfl

theorem literals_pass (hi : Body q insert) (hq : q.mark ∉ insert) (p : Place) (s : Text) :
    List.Forall₂ (Widened q) (literals q s) (literals q (pass q' insert p s)) := by
  induction s using (matcher q.mark).induction generalizing p with
  | nil =>
    rw [pass_nil, literals, Matcher.segments_nil]
    exact .nil
  | plain c s hr ih =>
    rw [literals_of_not_run hr]
    by_cases hc : c = q.mark
    · subst hc
      have hr' : (matcher q.mark).run (q.mark :: pass q' insert (p.next q' q.mark s) s) = none := by
        rw [run_eq_none_iff, closes_pass hi (Place.isTaken_next q' q.mark_ne_backslash p s)]
        exact run_eq_none_iff.1 hr
      rw [pass_cons_of_not_alpha q.mark_not_alpha, literals_of_not_run hr']
      exact ih _
    · have hx : q.mark ∉ c :: (if p.finds c then insert else []) := by
        split
        · simpa [Ne.symm hc] using hq
        · simpa using Ne.symm hc
      rw [pass_cons, ← List.cons_append, literals_append_of_not_mem hx]
      exact ih _
  | span a s r hr ih =>
    -- The pass may come out of the literal at any place, so `p` is general.
    obtain ⟨b, hb, rfl, rfl⟩ := read?_eq_some_iff.1 hr
    have ht := Place.isTaken_next q' q.mark_ne_backslash p (b ++ q.mark :: r)
    obtain ⟨y, p', he, hy, hs⟩ := exists_pass_body hi hb ht r
    have hs' : q.mark :: b ++ [q.mark] ++ r = q.mark :: (b ++ q.mark :: r) := by simp
    have hp : pass q' insert p (q.mark :: (b ++ q.mark :: r)) =
        q.mark :: y ++ [q.mark] ++ pass q' insert p' r := by
      rw [pass_cons_of_not_alpha q.mark_not_alpha, he]
      simp
    rw [literals_of_run hr, hs', hp, literals_of_run (run_append hy _)]
    exact .cons ⟨b, y, rfl, rfl, hb, hy, hs⟩ (ih p')

/-- Both rules together keep the literals in double quotes, and put text only between their
quotes, although the rule for single quotes inserts inside and between them. -/
theorem double_literals_applyAll (w : Whitelist) (hq : '"' ∉ w.raw) (hw : '\n' ∉ w.raw)
    (s : Text) :
    List.Forall₂ (Widened .double) (literals .double s)
      (literals .double (Rule.applyAll (Rule.both w .letter) s).content) := by
  have hd : Body .double (w.escaped .double) := Quote.body_escape _ hw
  have hs : Body .double (w.escaped .single) := Quote.body_escape_of_not_mem _ hq hw
  have hm : Quote.double.mark ∉ w.escaped .single :=
    Quote.not_mem_escape _ (by decide) hq
  have hfirst : List.Forall₂ (Widened .double) (literals .double s)
      (literals .double (pass .double (w.escaped .double) .code s)) :=
    (spans_of_rel (segments_pass hd s)).imp fun _ _ h ↦ h.widened hd
  rw [applyAll_both_letter]
  exact widened_trans hfirst (literals_pass hs hm .code _)

theorem double_literals_applyAll_apostrophe :
    '"' ∉ (['\''] : Text) ∧ '\n' ∉ (['\''] : Text) ∧
      (Rule.applyAll (Rule.both ⟨['\'']⟩ .letter)
        ['"', '\'', '"', 'x', '"', '\'', 'y', '"']).content =
          ['"', '\'', '"', 'x', '\\', '\'', '"', '\'', 'y', '\'', '"'] ∧
      List.Forall₂ (Widened .double)
        (literals .double ['"', '\'', '"', 'x', '"', '\'', 'y', '"'])
        (literals .double ['"', '\'', '"', 'x', '\\', '\'', '"', '\'', 'y', '\'', '"']) := by
  have hq : '"' ∉ (⟨['\'']⟩ : Whitelist).raw := by decide
  have hw : '\n' ∉ (⟨['\'']⟩ : Whitelist).raw := by decide
  have hout : (Rule.applyAll (Rule.both ⟨['\'']⟩ .letter)
      ['"', '\'', '"', 'x', '"', '\'', 'y', '"']).content =
        ['"', '\'', '"', 'x', '\\', '\'', '"', '\'', 'y', '\'', '"'] := by decide +kernel
  have h := double_literals_applyAll ⟨['\'']⟩ hq hw ['"', '\'', '"', 'x', '"', '\'', 'y', '"']
  rw [hout] at h
  exact ⟨hq, hw, hout, h⟩

end Literal

end LiteralPatch
