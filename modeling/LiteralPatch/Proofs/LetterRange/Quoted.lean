import LiteralPatch.Proofs.Line
import LiteralPatch.Rule

namespace LiteralPatch

namespace LetterRange

def HasRange (s : Text) : Prop := ∃ r ∈ spellings, r.IsInfix s

def HasQuotedRange (q : Char) (s : Text) : Prop :=
  ∃ x y z, s = x ++ q :: (y ++ q :: z) ∧ HasRange y

variable {q : Char} {s : Text}

theorem length_of_mem_spellings {r : Text} (h : r ∈ spellings) : r.length = 6 := by
  simp only [spellings, List.mem_cons, List.not_mem_nil, or_false] at h
  rcases h with rfl | rfl <;> rfl

theorem HasRange.of_infix {t : Text} (h : HasRange s) (hs : s.IsInfix t) : HasRange t := by
  obtain ⟨r, hr, hi⟩ := h
  exact ⟨r, hr, hi.trans hs⟩

theorem HasQuotedRange.append_left (h : HasQuotedRange q s) (t : Text) :
    HasQuotedRange q (t ++ s) := by
  obtain ⟨x, y, z, rfl, hy⟩ := h
  exact ⟨t ++ x, y, z, by simp, hy⟩

theorem HasQuotedRange.mem (h : HasQuotedRange q s) : q ∈ s := by
  obtain ⟨x, y, z, rfl, -⟩ := h
  simp

theorem exists_of_read? {r t : Text} (h : read? s = some (r, t)) : r ∈ spellings ∧ s = r ++ t := by
  refine ⟨?_, (read?_append h).symm⟩
  obtain ⟨p, hp, hr⟩ := List.exists_of_findSome?_eq_some h
  obtain ⟨x, -, he⟩ := Option.map_eq_some_iff.1 hr
  exact (Prod.mk.inj he).1 ▸ hp

theorem read?_append_right {r : Text} (hr : r ∈ spellings) (t : Text) :
    read? (r ++ t) = some (r, t) := by
  have hs : (read? (r ++ t)).isSome := by
    rw [read?, List.findSome?_isSome_iff]
    exact ⟨r, hr, by rw [Text.strip?_eq_some_iff.2 rfl]; rfl⟩
  obtain ⟨⟨r', t'⟩, h⟩ := Option.isSome_iff_exists.1 hs
  obtain ⟨hr', he⟩ := exists_of_read? h
  -- Both spellings have the same length, so the text starts with one of them only.
  have hl := length_of_mem_spellings hr
  rw [← length_of_mem_spellings hr'] at hl
  obtain ⟨rfl, rfl⟩ := List.append_inj he hl
  exact h

theorem isSome_throughLast_iff : (Text.throughLast q s).isSome = true ↔ q ∈ s := by
  induction s with
  | nil => simp [Text.throughLast]
  | cons c s ih =>
    rw [Text.throughLast, List.mem_cons, ← ih]
    cases Text.throughLast q s with
    | some p => simp
    | none => by_cases hc : c = q <;> simp [hc, Ne.symm]

theorem mem_of_throughLast {a b : Text} (h : Text.throughLast q s = some (a, b)) :
    q ∈ a ∧ q ∉ b := by
  induction s generalizing a b with
  | nil => simp [Text.throughLast] at h
  | cons c s ih =>
    rw [Text.throughLast] at h
    split at h
    · next x y hx =>
      obtain ⟨rfl, rfl⟩ := Prod.mk.inj (Option.some.inj h)
      exact ⟨List.mem_cons_of_mem c (ih hx).1, (ih hx).2⟩
    · next hn =>
      split at h
      · next hc =>
        obtain ⟨rfl, rfl⟩ := Prod.mk.inj (Option.some.inj h)
        refine ⟨List.mem_singleton.2 hc.symm, fun hm ↦ ?_⟩
        rw [← isSome_throughLast_iff, hn] at hm
        exact Bool.false_ne_true hm
      · simp at h

theorem isSome_last?_cons {c : Char} : (last? q (c :: s)).isSome = true ↔
    (last? q s).isSome = true ∨ ∃ r ∈ spellings, ∃ t, c :: s = r ++ t ∧ q ∈ t := by
  rw [last?]
  cases hl : last? q s with
  | some p => simp
  | none =>
    constructor
    · intro h
      obtain ⟨p, hp⟩ := Option.isSome_iff_exists.1 h
      obtain ⟨⟨r, t⟩, hr, ht⟩ := Option.bind_eq_some_iff.1 hp
      obtain ⟨x, hx, -⟩ := Option.map_eq_some_iff.1 ht
      obtain ⟨hm, he⟩ := exists_of_read? hr
      exact .inr ⟨r, hm, t, he, isSome_throughLast_iff.1 (by simp [hx])⟩
    · rintro (h | ⟨r, hr, t, he, ht⟩)
      · simp at h
      · obtain ⟨p, hp⟩ := Option.isSome_iff_exists.1 (isSome_throughLast_iff.2 ht)
        simp [he, read?_append_right hr, hp]

/-- The search for the last range finds one just where a range has a quote behind it. -/
theorem isSome_last?_iff :
    (last? q s).isSome = true ↔ ∃ y z, s = y ++ q :: z ∧ HasRange y := by
  induction s with
  | nil => simp [last?]
  | cons c s ih =>
    rw [isSome_last?_cons, ih]
    constructor
    · rintro (⟨y, z, rfl, hy⟩ | ⟨r, hr, t, he, ht⟩)
      · exact ⟨c :: y, z, rfl, hy.of_infix (List.suffix_cons c y).isInfix⟩
      · obtain ⟨u, z, rfl⟩ := List.append_of_mem ht
        exact ⟨r ++ u, z, by simp [he], r, hr, (List.prefix_append r u).isInfix⟩
    · rintro ⟨y, z, he, r, hr, hi⟩
      cases y with
      | nil =>
        have hl := length_of_mem_spellings hr
        simp [List.infix_nil.1 hi] at hl
      | cons d y =>
        obtain ⟨rfl, rfl⟩ := List.cons.inj he
        rcases List.infix_cons_iff.1 hi with ⟨u, hu⟩ | hi
        · exact .inr ⟨r, hr, u ++ q :: z, by simp [← List.cons_append, ← hu], by simp⟩
        · exact .inl ⟨y, z, rfl, r, hr, hi⟩

structure Cut.IsQuoted (q : Char) (s : Text) (k : Cut) : Prop where
  spell_eq : k.spell = s
  range_mem : k.range ∈ spellings
  before_mem : q ∈ k.before
  after_mem : q ∈ k.after

theorem hasQuotedRange_iff : HasQuotedRange q s ↔ ∃ k : Cut, k.IsQuoted q s := by
  constructor
  · rintro ⟨x, y, z, rfl, r, hr, u, v, rfl⟩
    exact ⟨⟨x ++ q :: u, r, v ++ q :: z⟩, by simp [Cut.spell], hr, by simp, by simp⟩
  · rintro ⟨⟨a, r, b⟩, rfl, hr, ha, hb⟩
    obtain ⟨x, u, rfl⟩ := List.append_of_mem ha
    obtain ⟨v, z, rfl⟩ := List.append_of_mem hb
    exact ⟨x, u ++ r ++ v, z, by simp [Cut.spell], r, hr, u, v, rfl⟩

/-- Of the ranges between quotes, the one that starts last. -/
structure Cut.IsLast (q : Char) (s : Text) (k : Cut) : Prop extends k.IsQuoted q s where
  length_le : ∀ k' : Cut, k'.IsQuoted q s → k'.before.length ≤ k.before.length

theorem last?_eq_some {k : Cut} {r : Text} (h : last? q s = some (k, r)) :
    k.range ∈ spellings ∧ q ∈ k.after ∧ q ∉ r := by
  induction s generalizing k r with
  | nil => simp [last?] at h
  | cons c s ih =>
    rw [last?] at h
    split at h
    · next k' r' h' =>
      obtain ⟨rfl, rfl⟩ := Prod.mk.inj (Option.some.inj h)
      obtain ⟨hk, ha, hr⟩ := ih h'
      exact ⟨hk, ha, hr⟩
    · obtain ⟨⟨range, t⟩, hr, ht⟩ := Option.bind_eq_some_iff.1 h
      obtain ⟨⟨x, y⟩, hx, he⟩ := Option.map_eq_some_iff.1 ht
      obtain ⟨rfl, rfl⟩ := Prod.mk.inj he
      exact ⟨(exists_of_read? hr).1, mem_of_throughLast hx⟩

theorem length_le_of_last? {k k' : Cut} {r : Text} (h : last? q s = some (k, r))
    (hs : k'.spell = s) (hr : k'.range ∈ spellings) (ha : q ∈ k'.after) :
    k'.before.length ≤ k.before.length := by
  induction s generalizing k k' r with
  | nil => simp [last?] at h
  | cons c s ih =>
    obtain ⟨b, range, after⟩ := k'
    cases b with
    | nil => exact Nat.zero_le _
    | cons d b =>
      have hs' : Cut.spell ⟨b, range, after⟩ = s := (List.cons.inj hs).2
      rw [last?] at h
      split at h
      · next k' r' h' =>
        obtain ⟨rfl, rfl⟩ := Prod.mk.inj (Option.some.inj h)
        exact Nat.succ_le_succ (ih h' hs' hr ha)
      · next hn =>
        -- A range further on would have been found there.
        obtain ⟨u, z, rfl⟩ : ∃ u z, after = u ++ q :: z := List.append_of_mem ha
        have hsome : (last? q s).isSome = true :=
          isSome_last?_iff.2
            ⟨b ++ range ++ u, z, by simp [← hs', Cut.spell], range, hr, b, u, rfl⟩
        simp [hn] at hsome

theorem isLast_of_last? {k : Cut} {r : Text} (h : last? q s = some (k, r)) :
    Cut.IsLast q (q :: s) ⟨q :: k.before, k.range, k.after ++ r⟩ := by
  obtain ⟨hr, ha, -⟩ := last?_eq_some h
  refine ⟨⟨?_, hr, List.mem_cons_self, List.mem_append_left r ha⟩, ?_⟩
  · simp [← last?_append h, Cut.spell]
  · rintro ⟨b, range, after⟩ ⟨hs, hr', -, ha'⟩
    cases b with
    | nil => exact Nat.zero_le _
    | cons d b =>
      have hs' : Cut.spell ⟨b, range, after⟩ = s := (List.cons.inj hs).2
      exact Nat.succ_le_succ (length_le_of_last? h hs' hr' ha')

theorem Cut.IsLast.cons_of_ne {c : Char} {k : Cut} (h : k.IsLast q s) (hc : c ≠ q) :
    Cut.IsLast q (c :: s) { k with before := c :: k.before } := by
  have hb := List.mem_cons_of_mem c h.before_mem
  refine ⟨⟨congrArg (c :: ·) h.spell_eq, h.range_mem, hb, h.after_mem⟩, ?_⟩
  rintro ⟨b, range, after⟩ ⟨hs, hr, hb', ha⟩
  cases b with
  | nil => exact Nat.zero_le _
  | cons d b =>
    obtain ⟨rfl, hs'⟩ : d = c ∧ Cut.spell ⟨b, range, after⟩ = s := List.cons.inj hs
    have hq : q ∈ b := List.mem_of_ne_of_mem (Ne.symm hc) hb'
    exact Nat.succ_le_succ (h.length_le _ ⟨hs', hr, hq, ha⟩)

theorem lineLocal_matcher (hq : q ≠ '\n') : (matcher q).LineLocal := by
  intro s t
  change quoted? q (s ++ '\n' :: t) = (quoted? q s).map _
  cases s with
  | nil => simp [quoted?, Ne.symm hq]
  | cons c s =>
    rw [List.cons_append, quoted?, quoted?]
    split
    · rw [Text.line_append_newline, Text.afterLine_append_newline, Option.map_map]
      congr 1
      funext p
      simp
    · rfl

variable {insert : Text}

theorem apply_range (q : Quote) (insert s : Text) :
    (Rule.mk q .range insert).apply s =
      (matcher q.mark).replace (fun k ↦ some (Rule.insertInCut insert k)) s := rfl

theorem run_eq_none_of_ne {c : Char} (hc : c ≠ q) (s : Text) : (matcher q).run (c :: s) = none :=
  if_neg hc

theorem replace_of_not_mem (change : Cut → Option Text) (h : q ∉ s) :
    (matcher q).replace change s = ⟨s, 0⟩ := by
  induction s with
  | nil => exact Matcher.replace_nil _ _
  | cons c s ih =>
    rw [List.mem_cons, not_or] at h
    rw [Matcher.replace_of_not_run _ _ (run_eq_none_of_ne (Ne.symm h.1) s), ih h.2]

theorem hasQuotedRange_cons_of_ne {c : Char} (hc : c ≠ q) :
    HasQuotedRange q (c :: s) ↔ HasQuotedRange q s := by
  refine ⟨?_, fun h ↦ h.append_left [c]⟩
  rintro ⟨x, y, z, he, hy⟩
  cases x with
  | nil => exact absurd (List.cons.inj he).1 hc
  | cons d x => exact ⟨x, y, z, (List.cons.inj he).2, hy⟩

theorem hasQuotedRange_cons_self : HasQuotedRange q (q :: s) ↔ (last? q s).isSome = true := by
  rw [isSome_last?_iff]
  constructor
  · rintro ⟨x, y, z, he, hy⟩
    cases x with
    | nil => exact ⟨y, z, (List.cons.inj he).2, hy⟩
    | cons d x =>
      refine ⟨x ++ q :: y, z, by simp [(List.cons.inj he).2], hy.of_infix ?_⟩
      exact ⟨x ++ [q], [], by simp⟩
  · rintro ⟨y, z, rfl, hy⟩
    exact ⟨[], y, z, rfl, hy⟩

theorem run_line {l : Text} (hl : '\n' ∉ l) :
    (matcher q).run (q :: l) =
      (last? q l).map fun p ↦ ({ p.1 with before := q :: p.1.before }, p.2) := by
  change quoted? q (q :: l) = _
  rw [quoted?, if_pos rfl, Text.line_eq_self hl, Text.afterLine_eq_nil hl]
  simp

theorem replace_line_of_not {l : Text} (hl : '\n' ∉ l) (h : ¬HasQuotedRange q l)
    (change : Cut → Option Text) : (matcher q).replace change l = ⟨l, 0⟩ := by
  induction l with
  | nil => exact Matcher.replace_nil _ _
  | cons c l ih =>
    have hl' : '\n' ∉ l := fun hm ↦ hl (List.mem_cons_of_mem c hm)
    have hr : (matcher q).run (c :: l) = none := by
      by_cases hc : c = q
      · subst hc
        rw [hasQuotedRange_cons_self, Option.not_isSome_iff_eq_none] at h
        rw [run_line hl', h]
        rfl
      · exact run_eq_none_of_ne hc l
    rw [Matcher.replace_of_not_run _ _ hr, ih hl' fun h' ↦ h (h'.append_left [c])]

/-- A line with a range between its quotes is one hit: the text comes behind the last such range. -/
theorem replace_line {l : Text} (hl : '\n' ∉ l) (h : HasQuotedRange q l) (insert : Text) :
    ∃ k : Cut, k.IsLast q l ∧
      (matcher q).replace (fun k ↦ some (Rule.insertInCut insert k)) l =
        ⟨Rule.insertInCut insert k, 1⟩ := by
  induction l with
  | nil => exact absurd h.mem (List.not_mem_nil)
  | cons c l ih =>
    have hl' : '\n' ∉ l := fun hm ↦ hl (List.mem_cons_of_mem c hm)
    by_cases hc : c = q
    · subst hc
      obtain ⟨⟨k, r⟩, hk⟩ := Option.isSome_iff_exists.1 (hasQuotedRange_cons_self.1 h)
      have hr : (matcher c).run (c :: l) = some ({ k with before := c :: k.before }, r) := by
        rw [run_line hl', hk]
        rfl
      refine ⟨_, isLast_of_last? hk, ?_⟩
      rw [Matcher.replace_of_run _ _ hr, replace_of_not_mem _ (last?_eq_some hk).2.2]
      simp [Rule.insertInCut]
    · obtain ⟨k, hk, he⟩ := ih hl' ((hasQuotedRange_cons_of_ne hc).1 h)
      refine ⟨_, hk.cons_of_ne hc, ?_⟩
      rw [Matcher.replace_of_not_run _ _ (run_eq_none_of_ne hc l), he]
      rfl

end LetterRange

end LiteralPatch
