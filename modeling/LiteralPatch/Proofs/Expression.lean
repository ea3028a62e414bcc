import LiteralPatch.Declaration
import LiteralPatch.Pattern.Read
import LiteralPatch.Proofs.CharSet
import LiteralPatch.Proofs.Declaration.Line
import LiteralPatch.Proofs.LetterRange.Quoted
import LiteralPatch.Proofs.Literal.Units
import LiteralPatch.Proofs.Pattern.Language

namespace LiteralPatch

open Pattern

def CharSet.allBut (s : Text) : CharSet := (CharSet.unions (s.map CharSet.one)).compl

theorem CharSet.mem_allBut {s : Text} {c : Char} : (allBut s).mem c = true ↔ c ∉ s := by
  rw [allBut, mem_compl, mem_unions]
  simp [mem_one]

theorem eq_ok_of_toOption {ε α : Type} {x : Except ε α} {a : α} (h : x.toOption = some a) :
    x = .ok a := by
  cases x with
  | error e => cases h
  | ok b => exact congrArg Except.ok (Option.some.inj h)

theorem length_le_of_prefix {c : Char} {a r x : Text} (hr : c ∉ Text.line r) (hx : '\n' ∉ x ++ [c])
    (h : x ++ [c] <+: a ++ r) : (x ++ [c]).length ≤ a.length := by
  refine Nat.not_lt.1 fun hlt ↦ hr ?_
  obtain ⟨z, hz⟩ := List.prefix_of_prefix_length_le (List.prefix_append a r) h (Nat.le_of_lt hlt)
  obtain ⟨w, hw⟩ := h
  rcases List.eq_nil_or_concat' z with rfl | ⟨z, d, rfl⟩
  · rw [← hz, List.append_nil] at hlt
    exact absurd hlt (Nat.lt_irrefl _)
  · rw [← List.append_assoc] at hz
    obtain ⟨rfl, hd⟩ := List.append_inj' hz rfl
    obtain rfl := (List.cons.inj hd).1
    rw [List.append_assoc, List.append_assoc, List.append_cancel_left_eq] at hw
    rw [List.mem_append, List.mem_append, not_or, not_or] at hx
    refine (Text.mem_line_iff fun hc ↦ hx.2 (by simp [hc])).2 ⟨z, w, hx.1.2, ?_⟩
    simpa using hw.symm

namespace Literal

def unit (q : Quote) : Pattern :=
  alt (one (.allBut [q.mark, '\\', '\n'])) (seq (literal ['\\']) (one (.allBut ['\n'])))

def pattern (q : Quote) : Pattern :=
  seq (literal [q.mark]) (seq (times (unit q) 0 none false) (literal [q.mark]))

theorem read_expression (q : Quote) :
    Pattern.read (Anchor.letter.expression q.mark) = .ok (pattern q) := by
  cases q <;> exact eq_ok_of_toOption (by decide +kernel)

theorem body_iff_mem_language {q : Quote} {b : Text} :
    Body q b ↔ b ∈ (times (unit q) 0 none false).language := by
  rw [mem_language_star]
  constructor
  · intro hb
    induction hb with
    | nil => exact ⟨[], nofun, rfl⟩
    | @bare c b hc hn _ ih =>
      obtain ⟨xs, hxs, rfl⟩ := ih
      refine ⟨[c] :: xs, List.forall_mem_cons.2 ⟨.inl ⟨c, ?_, rfl⟩, hxs⟩, rfl⟩
      exact CharSet.mem_allBut.2 (by simp [hc.1, hc.2, hn])
    | @taken c b hc _ ih =>
      obtain ⟨xs, hxs, rfl⟩ := ih
      refine ⟨['\\', c] :: xs, List.forall_mem_cons.2 ⟨.inr ?_, hxs⟩, rfl⟩
      exact ⟨['\\'], rfl, [c], ⟨c, CharSet.mem_allBut.2 (by simpa using hc), rfl⟩, rfl⟩
  · rintro ⟨xs, hall, rfl⟩
    induction xs with
    | nil => exact .nil
    | cons x xs ih =>
      obtain ⟨hx, hxs⟩ := List.forall_mem_cons.1 hall
      rw [List.flatten_cons]
      rcases hx with ⟨c, hc, rfl⟩ | ⟨_, rfl, _, ⟨c, hc, rfl⟩, rfl⟩
      · have hc := CharSet.mem_allBut.1 hc
        simp only [List.mem_cons, List.not_mem_nil, or_false, not_or] at hc
        exact .bare ⟨hc.1, hc.2.2⟩ hc.2.1 (ih hxs)
      · exact .taken (by simpa using CharSet.mem_allBut.1 hc) (ih hxs)

theorem mem_language_pattern {q : Quote} {a : Text} :
    a ∈ (pattern q).language ↔ ∃ b, Body q b ∧ a = q.mark :: b ++ [q.mark] := by
  simp only [pattern, mem_language_seq, ← body_iff_mem_language]
  constructor
  · rintro ⟨_, rfl, _, ⟨b, hb, _, rfl, rfl⟩, rfl⟩
    exact ⟨b, hb, rfl⟩
  · rintro ⟨b, hb, rfl⟩
    exact ⟨[q.mark], rfl, b ++ [q.mark], ⟨b, hb, [q.mark], rfl, rfl⟩, rfl⟩

/-- The expression behind letters spells literals, and a text begins with one of them at most. -/
theorem run_iff_mem_language {q : Quote} {s a r : Text} :
    (matcher q.mark).run s = some (a, r) ↔ s = a ++ r ∧ a ∈ (pattern q).language := by
  change read? q.mark s = some (a, r) ↔ _
  rw [read?_eq_some_iff, mem_language_pattern]
  constructor
  · rintro ⟨b, hb, ha, hs⟩
    exact ⟨hs, b, hb, ha⟩
  · rintro ⟨hs, b, hb, ha⟩
    exact ⟨b, hb, ha, hs⟩

end Literal

namespace LetterRange

def head (q : Quote) : Pattern :=
  seq (literal [q.mark]) (times (one (.allBut ['\n'])) 0 none false)

def spelling : Pattern := alt (literal "a-zA-Z".toList) (literal "A-Za-z".toList)

def tail (q : Quote) : Pattern :=
  seq (times (one (.allBut ['\n'])) 0 none false) (literal [q.mark])

theorem read_expression (q : Quote) : Pattern.read (Anchor.range.expression q.mark) =
    .ok (seq (group 1 (head q)) (seq (group 2 spelling) (group 3 (tail q)))) := by
  cases q <;> exact eq_ok_of_toOption (by decide +kernel)

structure Cut.Fits (q : Quote) (s r : Text) (k : Cut) : Prop where
  spell_eq : s = k.spell ++ r
  before_mem : k.before ∈ (head q).language
  range_mem : k.range ∈ spelling.language
  after_mem : k.after ∈ (tail q).language

/-- The first group is as long as it can be, and then the third one. -/
def Cut.Precedes (k k' : Cut) : Prop :=
  k'.before.length < k.before.length ∨
    k'.before.length = k.before.length ∧ k'.after.length ≤ k.after.length

variable {q : Quote} {s r x : Text} {k : Cut}

theorem mem_language_head :
    x ∈ (head q).language ↔ ∃ t, '\n' ∉ t ∧ x = q.mark :: t := by
  simp only [head, mem_language_seq, mem_language_star_one, CharSet.mem_allBut]
  constructor
  · rintro ⟨_, rfl, t, ht, rfl⟩
    exact ⟨t, fun hm ↦ ht _ hm List.mem_cons_self, rfl⟩
  · rintro ⟨t, ht, rfl⟩
    exact ⟨[q.mark], rfl, t, fun c hc hm ↦ ht (List.mem_singleton.1 hm ▸ hc), rfl⟩

theorem mem_language_tail :
    x ∈ (tail q).language ↔ ∃ t, '\n' ∉ t ∧ x = t ++ [q.mark] := by
  simp only [tail, mem_language_seq, mem_language_star_one, CharSet.mem_allBut]
  constructor
  · rintro ⟨t, ht, _, rfl, rfl⟩
    exact ⟨t, fun hm ↦ ht _ hm List.mem_cons_self, rfl⟩
  · rintro ⟨t, ht, rfl⟩
    exact ⟨t, fun c hc hm ↦ ht (List.mem_singleton.1 hm ▸ hc), [q.mark], rfl, rfl⟩

theorem mem_language_spelling : x ∈ spelling.language ↔ x ∈ spellings := by
  rw [spellings, List.mem_pair]
  rfl

theorem newline_not_mem_of_mem_spellings (h : x ∈ spellings) : '\n' ∉ x := by
  simp only [spellings, List.mem_pair] at h
  rcases h with rfl | rfl <;> decide

theorem exists_after_of_last? {c : Char} (h : last? c s = some (k, r)) :
    ∃ u, k.after = u ++ [c] := by
  induction s generalizing k r with
  | nil => cases h
  | cons d s ih =>
    rw [last?] at h
    split at h
    · next k' r' h' =>
      obtain ⟨rfl, rfl⟩ := Prod.mk.inj (Option.some.inj h)
      obtain ⟨u, hu⟩ := ih h'
      exact ⟨u, hu⟩
    · obtain ⟨⟨range, t⟩, -, ht⟩ := Option.bind_eq_some_iff.1 h
      obtain ⟨⟨x, y⟩, hx, he⟩ := Option.map_eq_some_iff.1 ht
      obtain ⟨rfl, rfl⟩ := Prod.mk.inj he
      obtain ⟨u, hu, -⟩ := Text.throughLast_eq_some_iff.1 hx
      exact ⟨u, hu⟩

theorem exists_of_run (h : (matcher q.mark).run s = some (k, r)) :
    ∃ t b z, s = q.mark :: t ∧ k.before = q.mark :: b ∧ r = z ++ Text.afterLine t ∧
      last? q.mark (Text.line t) = some (⟨b, k.range, k.after⟩, z) := by
  change quoted? q.mark s = _ at h
  cases s with
  | nil => cases h
  | cons c t =>
    rw [quoted?] at h
    split at h
    · next hc =>
      obtain ⟨⟨⟨b, range, after⟩, z⟩, hz, he⟩ := Option.map_eq_some_iff.1 h
      obtain ⟨rfl, rfl⟩ := Prod.mk.inj he
      exact ⟨t, b, z, by rw [hc], rfl, rfl, hz⟩
    · cases h

theorem fits_of_run (h : (matcher q.mark).run s = some (k, r)) : k.Fits q s r := by
  obtain ⟨t, b, z, rfl, hb, rfl, hlast⟩ := exists_of_run h
  have hline := last?_append hlast
  have hn := hline ▸ Text.newline_not_mem_line t
  simp only [Cut.spell, List.mem_append, not_or] at hn hline
  obtain ⟨u, hu : k.after = u ++ [q.mark]⟩ := exists_after_of_last? hlast
  refine ⟨?_, mem_language_head.2 ⟨b, hn.1.1.1, hb⟩,
    mem_language_spelling.2 (last?_eq_some hlast).1, mem_language_tail.2 ⟨u, ?_, hu⟩⟩
  · have ht := Text.line_append_afterLine t
    rw [← hline] at ht
    refine (congrArg (q.mark :: ·) ht.symm).trans ?_
    simp [Cut.spell, hb]
  · exact fun hm ↦ hn.1.2 (hu ▸ List.mem_append_left _ hm)

theorem Cut.Fits.exists_line {t : Text} (h : k.Fits q (q.mark :: t) r) :
    ∃ b u, k.before = q.mark :: b ∧ k.after = u ++ [q.mark] ∧ '\n' ∉ u ∧
      Text.line t = b ++ k.range ++ (k.after ++ Text.line r) := by
  obtain ⟨b, hb, hbefore⟩ := mem_language_head.1 h.before_mem
  obtain ⟨u, hu, hafter⟩ := mem_language_tail.1 h.after_mem
  refine ⟨b, u, hbefore, hafter, hu, ?_⟩
  have hs := h.spell_eq
  rw [Cut.spell, hbefore, List.cons_append, List.cons_append, List.cons_append] at hs
  have hn : '\n' ∉ b ++ k.range ++ k.after := by
    have := newline_not_mem_of_mem_spellings (mem_language_spelling.1 h.range_mem)
    simp [hb, hu, this, hafter, Ne.symm q.mark_ne_newline]
  rw [(List.cons.inj hs).2, Text.line_append hn, List.append_assoc]

theorem precedes_of_run {k' : Cut} {r' : Text} (h : (matcher q.mark).run s = some (k, r))
    (hk : k'.Fits q s r') : k.Precedes k' := by
  obtain ⟨t, b, z, rfl, hb, rfl, hlast⟩ := exists_of_run h
  obtain ⟨b', u', hb', hu', hn, hline'⟩ := hk.exists_line
  have hline := last?_append hlast
  have hr' := mem_language_spelling.1 hk.range_mem
  let shorter : Cut := ⟨b', k'.range, k'.after ++ Text.line r'⟩
  have hspell : shorter.spell = Text.line t := hline'.symm
  have hshorter := length_le_of_last? hlast hspell hr' (by simp [shorter, hu'])
  have hle : b'.length ≤ b.length := hshorter
  rw [Cut.Precedes, hb, hb', List.length_cons, List.length_cons]
  rcases Nat.lt_or_eq_of_le hle with hlt | heq
  · exact .inl (Nat.succ_lt_succ hlt)
  · refine .inr ⟨congrArg _ heq, ?_⟩
    obtain ⟨hr, -, hz⟩ := last?_eq_some hlast
    have hlen : (b' ++ k'.range).length = (b ++ k.range).length := by
      simp [heq, length_of_mem_spellings hr', length_of_mem_spellings hr]
    simp only [Cut.spell] at hline hr
    rw [hline', List.append_assoc (b ++ k.range)] at hline
    have hafter := (List.append_inj hline hlen.symm).2
    rw [hu'] at hafter ⊢
    refine length_le_of_prefix (r := z) (fun hm ↦ hz ((List.takeWhile_prefix _).subset hm)) ?_
      ⟨_, hafter.symm⟩
    simp [hn, Ne.symm q.mark_ne_newline]

theorem exists_run_of_fits (h : k.Fits q s r) :
    ∃ k' r', (matcher q.mark).run s = some (k', r') := by
  obtain ⟨b, -, hb⟩ := mem_language_head.1 h.before_mem
  obtain ⟨t, rfl⟩ : ∃ t, s = q.mark :: t := by
    rw [h.spell_eq, Cut.spell, hb]
    exact ⟨_, rfl⟩
  obtain ⟨b, u, -, hu, -, hline⟩ := h.exists_line
  have hsome : (last? q.mark (Text.line t)).isSome = true := by
    refine isSome_last?_iff.2 ⟨b ++ k.range ++ u, Text.line r, by simp [hline, hu], ?_⟩
    exact ⟨k.range, mem_language_spelling.1 h.range_mem, b, u, rfl⟩
  obtain ⟨⟨k', z⟩, hk⟩ := Option.isSome_iff_exists.1 hsome
  refine ⟨{ k' with before := q.mark :: k'.before }, z ++ Text.afterLine t, ?_⟩
  change quoted? q.mark (q.mark :: t) = _
  rw [quoted?, if_pos rfl, hk]
  rfl

theorem Cut.Fits.unique {k' : Cut} {r' : Text} (h : k.Fits q s r) (h' : k'.Fits q s r')
    (hb : k.before.length = k'.before.length) (ha : k.after.length = k'.after.length) :
    k = k' ∧ r = r' := by
  have hs := h.spell_eq.symm.trans h'.spell_eq
  have hr : k.range.length = k'.range.length := by
    rw [length_of_mem_spellings (mem_language_spelling.1 h.range_mem),
      length_of_mem_spellings (mem_language_spelling.1 h'.range_mem)]
  obtain ⟨b, range, a⟩ := k
  obtain ⟨b', range', a'⟩ := k'
  simp only [Cut.spell, List.append_assoc] at hs
  obtain ⟨rfl, hbehind⟩ := List.append_inj hs hb
  obtain ⟨rfl, hrest⟩ := List.append_inj hbehind hr
  obtain ⟨rfl, rfl⟩ := List.append_inj hrest ha
  exact ⟨rfl, rfl⟩

/-- The search takes what the expression for ranges takes: its groups in turn, as much as they can
take. -/
theorem run_iff_fits : (matcher q.mark).run s = some (k, r) ↔
    k.Fits q s r ∧ ∀ k' r', Cut.Fits q s r' k' → k.Precedes k' := by
  refine ⟨fun h ↦ ⟨fits_of_run h, fun k' r' ↦ precedes_of_run h⟩, fun ⟨h, hmost⟩ ↦ ?_⟩
  obtain ⟨k', r', hrun⟩ := exists_run_of_fits h
  have hpre := hmost k' r' (fits_of_run hrun)
  have hpre' := precedes_of_run hrun h
  simp only [Cut.Precedes] at hpre hpre'
  obtain ⟨rfl, rfl⟩ := h.unique (fits_of_run hrun) (by omega) (by omega)
  exact hrun

end LetterRange

namespace Declaration

def pattern : ParenExtent → Pattern
  | .greedy =>
    seq (literal words) (seq (times (one (.allBut ['\n'])) 0 none false) (literal [')']))
  | .first =>
    seq (literal words) (seq (times (one (.allBut [')', '\n'])) 0 none false) (literal [')']))

theorem read_expression (extent : ParenExtent) :
    Pattern.read (expression extent) = .ok (pattern extent) := by
  cases extent <;> exact eq_ok_of_toOption (by decide +kernel)

variable {extent : ParenExtent} {s a r : Text}

theorem mem_language_greedy :
    a ∈ (pattern .greedy).language ↔ ∃ x, '\n' ∉ x ∧ a = words ++ (x ++ [')']) := by
  simp only [pattern, mem_language_seq, mem_language_star_one, CharSet.mem_allBut]
  constructor
  · rintro ⟨_, rfl, _, ⟨x, hx, _, rfl, rfl⟩, rfl⟩
    exact ⟨x, fun hm ↦ hx _ hm List.mem_cons_self, rfl⟩
  · rintro ⟨x, hx, rfl⟩
    refine ⟨words, rfl, x ++ [')'], ⟨x, fun c hc hm ↦ ?_, [')'], rfl, rfl⟩, rfl⟩
    exact hx (List.mem_singleton.1 hm ▸ hc)

theorem mem_language_first :
    a ∈ (pattern .first).language ↔ ∃ x, ')' ∉ x ∧ '\n' ∉ x ∧ a = words ++ (x ++ [')']) := by
  simp only [pattern, mem_language_seq, mem_language_star_one, CharSet.mem_allBut]
  constructor
  · rintro ⟨_, rfl, _, ⟨x, hx, _, rfl, rfl⟩, rfl⟩
    exact ⟨x, fun hm ↦ hx _ hm (by simp), fun hm ↦ hx _ hm (by simp), rfl⟩
  · rintro ⟨x, hp, hn, rfl⟩
    refine ⟨words, rfl, x ++ [')'], ⟨x, fun c hc hm ↦ ?_, [')'], rfl, rfl⟩, rfl⟩
    rcases List.mem_pair.1 hm with rfl | rfl
    · exact hp hc
    · exact hn hc

theorem cut?_append {l y z : Text} (h : extent.cut? l = some (y, z)) : y ++ z = l := by
  cases extent with
  | greedy => exact Text.throughLast_append h
  | first => exact Text.throughFirst_append h

theorem run_eq_some_iff : (matcher extent).run s = some (a, r) ↔
    ∃ y, a = words ++ y ∧ s = a ++ r ∧ '\n' ∉ y ∧
      extent.cut? (y ++ Text.line r) = some (y, Text.line r) := by
  change read? extent s = some (a, r) ↔ _
  constructor
  · intro h
    obtain ⟨t, ht, h⟩ := Option.bind_eq_some_iff.1 h
    obtain ⟨⟨y, z⟩, hcut, he⟩ := Option.map_eq_some_iff.1 h
    obtain ⟨rfl, rfl⟩ := Prod.mk.inj he
    have hyz := cut?_append hcut
    have hn : '\n' ∉ y ++ z := hyz ▸ Text.newline_not_mem_line t
    rw [List.mem_append, not_or] at hn
    have hline : Text.line (z ++ Text.afterLine t) = z := by
      rw [Text.line_append hn.2, Text.line_afterLine, List.append_nil]
    refine ⟨y, rfl, ?_, hn.1, by rwa [hline, hyz]⟩
    rw [Text.strip?_eq_some_iff.1 ht, List.append_assoc, ← List.append_assoc y, hyz,
      Text.line_append_afterLine]
  · rintro ⟨y, rfl, rfl, hn, hcut⟩
    rw [read?, List.append_assoc, Text.strip?_eq_some_iff.2 rfl, Option.bind_some,
      Text.line_append hn, Text.afterLine_append hn, hcut, Option.map_some]
    simp only [Text.line_append_afterLine]

/-- Up to the first parenthesis the expression takes one text at most. -/
theorem run_first_iff_mem_language :
    (matcher .first).run s = some (a, r) ↔ s = a ++ r ∧ a ∈ (pattern .first).language := by
  rw [run_eq_some_iff, mem_language_first]
  simp only [ParenExtent.cut?, Text.throughFirst_eq_some_iff]
  constructor
  · rintro ⟨_, rfl, hs, hn, x, hx, rfl, -⟩
    exact ⟨hs, x, hx, fun hm ↦ hn (List.mem_append_left _ hm), rfl⟩
  · rintro ⟨hs, x, hx, hn, rfl⟩
    exact ⟨x ++ [')'], rfl, hs, by simpa using hn, x, hx, rfl, trivial⟩

/-- Up to the last parenthesis the longest text is taken. -/
theorem run_greedy_iff_mem_language :
    (matcher .greedy).run s = some (a, r) ↔ s = a ++ r ∧ a ∈ (pattern .greedy).language ∧
      ∀ a' ∈ (pattern .greedy).language, a' <+: s → a'.length ≤ a.length := by
  rw [run_eq_some_iff, mem_language_greedy]
  simp only [ParenExtent.cut?, Text.throughLast_eq_some_iff]
  constructor
  · rintro ⟨_, rfl, rfl, hn, x, rfl, hp, -⟩
    refine ⟨rfl, ⟨x, fun hm ↦ hn (List.mem_append_left _ hm), rfl⟩, fun a' ha' hpre ↦ ?_⟩
    obtain ⟨x', hn', rfl⟩ := mem_language_greedy.1 ha'
    have hw : '\n' ∉ words := by decide
    rw [← List.append_assoc] at hpre ⊢
    exact length_le_of_prefix hp (by simp [hw, hn']) hpre
  · rintro ⟨hs, ⟨x, hn, rfl⟩, hmax⟩
    refine ⟨x ++ [')'], rfl, hs, by simpa using hn, x, rfl, fun hp ↦ ?_, trivial⟩
    obtain ⟨u, v, hu, rfl⟩ := (Text.mem_line_iff (by decide)).1 hp
    have hlonger := hmax (words ++ ((x ++ ')' :: u) ++ [')']))
      (mem_language_greedy.2 ⟨x ++ ')' :: u, by simp [hn, hu], rfl⟩) ⟨v, by simp [hs]⟩
    simp only [List.length_append, List.length_cons] at hlonger
    omega

end Declaration

end LiteralPatch
