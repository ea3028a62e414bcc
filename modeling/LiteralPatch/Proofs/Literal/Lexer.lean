import LiteralPatch.Proofs.Literal.Survival
import LiteralPatch.Proofs.Packing
import LiteralPatch.Proofs.Patch

namespace LiteralPatch

namespace Literal

/-- Where the lexer stands. In a literal it keeps what it has read since the opening quote. -/
inductive Lexer
  | code
  | body (read : Text)
  | taken (read : Text)
  deriving DecidableEq, Repr

namespace Lexer

/-- A line feed ends an open literal, whether or not a backslash stands before it. -/
def next (q : Quote) (c : Char) : Lexer → Lexer
  | code => if c = q.mark then body [c] else code
  | body read =>
    if c = q.mark ∨ c = '\n' then code
    else if c = '\\' then taken (read ++ [c])
    else body (read ++ [c])
  | taken read => if c = '\n' then code else body (read ++ [c])

def dropped : Lexer → Text
  | code => []
  | body read | taken read => read

def emits (q : Quote) (c : Char) : Lexer → List (Segment Text)
  | code => if c = q.mark then [] else [.plain c]
  | body read =>
    if c = q.mark then [.span (read ++ [c])]
    else if c = '\n' then (read ++ [c]).map .plain
    else []
  | taken read => if c = '\n' then (read ++ [c]).map .plain else []

end Lexer

def lexFrom (q : Quote) : Lexer → Text → List (Segment Text)
  | l, [] => l.dropped.map .plain
  | l, c :: s => l.emits q c ++ lexFrom q (l.next q c) s

def lex (q : Quote) (s : Text) : List (Segment Text) := lexFrom q .code s

variable {q : Quote} {l : Lexer} {b x s : Text}

/-- What the lexer has read of a literal is a quote and whole units, and then the backslash it may
stand behind. -/
def Lexer.Open (q : Quote) : Lexer → Prop
  | code => True
  | body read => ∃ b, Body q b ∧ read = q.mark :: b
  | taken read => ∃ b, Body q b ∧ read = q.mark :: b ++ ['\\']

theorem segments_cons_of_not {c : Char} (h : ¬(c = q.mark ∧ closes q s = true)) :
    (matcher q.mark).segments (c :: s) = .plain c :: (matcher q.mark).segments s :=
  Matcher.segments_of_not_run _ (run_eq_none_iff.2 h)

theorem segments_unclosed (hb : Body q b) (hx : closes q x = false)
    (hs : (matcher q.mark).segments x = x.map .plain) :
    (matcher q.mark).segments (b ++ x) = (b ++ x).map .plain := by
  induction hb with
  | nil => exact hs
  | bare hc hn _ ih =>
    rw [List.cons_append, segments_cons_of_not fun h ↦ hc.1 h.1, ih, List.map_cons]
  | @taken c b hc hb ih =>
    -- A quote behind the backslash opens nothing: the units from it on are those read before.
    have hopen : ¬(c = q.mark ∧ closes q (b ++ x) = true) := by
      rw [closes_append hb, hx]
      exact fun h ↦ Bool.false_ne_true h.2
    have hback : ¬('\\' = q.mark ∧ closes q (c :: (b ++ x)) = true) := fun h ↦
      q.mark_ne_backslash h.1.symm
    rw [List.cons_append, List.cons_append, segments_cons_of_not hback, segments_cons_of_not hopen,
      ih, List.map_cons, List.map_cons]

theorem Lexer.Open.segments_dropped (h : l.Open q) :
    (matcher q.mark).segments l.dropped = l.dropped.map .plain := by
  have hmark {b x : Text} (hb : Body q b) (hx : closes q x = false)
      (hs : (matcher q.mark).segments x = x.map .plain) :
      (matcher q.mark).segments (q.mark :: (b ++ x)) = (q.mark :: (b ++ x)).map .plain := by
    rw [segments_cons_of_not, segments_unclosed hb hx hs, List.map_cons]
    rw [closes_append hb, hx]
    exact fun h ↦ Bool.false_ne_true h.2
  cases l with
  | code => exact Matcher.segments_nil _
  | body read =>
    obtain ⟨b, hb, rfl⟩ := h
    simpa [Lexer.dropped] using hmark hb rfl (Matcher.segments_nil _)
  | taken read =>
    obtain ⟨b, hb, rfl⟩ := h
    have hone : (matcher q.mark).segments ['\\'] = [.plain '\\'] := by
      rw [segments_cons_of_not fun h ↦ q.mark_ne_backslash h.1.symm, Matcher.segments_nil]
    exact hmark hb rfl hone

theorem Lexer.Open.next (h : l.Open q) (c : Char) : (l.next q c).Open q := by
  cases l with
  | code =>
    rw [Lexer.next]
    split
    · next hc => exact ⟨[], .nil, by rw [hc]⟩
    · trivial
  | body read =>
    obtain ⟨b, hb, rfl⟩ := h
    rw [Lexer.next]
    split
    · trivial
    · next hc =>
      rw [not_or] at hc
      split
      · next hn => exact ⟨b, hb, by rw [hn]⟩
      · next hn => exact ⟨b ++ [c], Units.append hb (.single hc hn), rfl⟩
  | taken read =>
    obtain ⟨b, hb, rfl⟩ := h
    rw [Lexer.next]
    split
    · trivial
    · next hc => exact ⟨b ++ ['\\', c], Units.append hb (.taken hc .nil), by simp⟩

theorem Lexer.Open.segments_step (h : l.Open q) (c : Char) (s : Text) :
    (matcher q.mark).segments (l.dropped ++ c :: s) =
      l.emits q c ++ (matcher q.mark).segments ((l.next q c).dropped ++ s) := by
  have hline (s : Text) : (matcher q.mark).segments (l.dropped ++ '\n' :: s) =
      (l.dropped ++ ['\n']).map .plain ++ (matcher q.mark).segments s := by
    rw [(lineLocal_matcher q).segments_append, h.segments_dropped]
    simp
  cases l with
  | code =>
    rw [Lexer.next, Lexer.emits]
    split
    · next hc => simp [Lexer.dropped]
    · next hc => exact segments_cons_of_not fun h ↦ hc h.1
  | body read =>
    obtain ⟨b, hb, rfl⟩ := h
    by_cases hq : c = q.mark
    · subst hq
      rw [Lexer.emits, if_pos rfl, Lexer.next, if_pos (Or.inl rfl)]
      have hs : q.mark :: b ++ q.mark :: s = q.mark :: b ++ [q.mark] ++ s := by simp
      exact (congrArg _ hs).trans (Matcher.segments_of_run _ (run_append hb s))
    · by_cases hn : c = '\n'
      · subst hn
        rw [Lexer.emits, if_neg hq, if_pos rfl, Lexer.next, if_pos (Or.inr rfl)]
        exact hline s
      · rw [Lexer.emits, if_neg hq, if_neg hn, Lexer.next, if_neg (not_or.2 ⟨hq, hn⟩)]
        split <;> simp [Lexer.dropped]
  | taken read =>
    by_cases hn : c = '\n'
    · subst hn
      rw [Lexer.emits, if_pos rfl, Lexer.next, if_pos rfl]
      exact hline s
    · rw [Lexer.emits, if_neg hn, Lexer.next, if_neg hn]
      simp [Lexer.dropped]

theorem Lexer.Open.lexFrom_eq (h : l.Open q) (s : Text) :
    lexFrom q l s = (matcher q.mark).segments (l.dropped ++ s) := by
  -- The scan starts at the quote that is open, and so always has the whole literal before it.
  induction s generalizing l with
  | nil => rw [lexFrom, List.append_nil, h.segments_dropped]
  | cons c s ih => rw [lexFrom, ih (h.next c), h.segments_step]

theorem lex_eq_segments (q : Quote) (s : Text) : lex q s = (matcher q.mark).segments s :=
  Lexer.Open.lexFrom_eq (l := .code) trivial s

def StandsAt (q : Quote) (s : Text) (p : Nat × Text) : Prop :=
  ∃ b, Body q b ∧ p.2 = q.mark :: b ++ [q.mark] ∧ p.2 <+: s.drop p.1

theorem matchesAt_iff {p : Nat × Text} :
    (matcher q.mark).MatchesAt s p ↔ StandsAt q s p := by
  constructor
  · rintro ⟨r, hr⟩
    obtain ⟨b, hb, hp, hs⟩ := read?_eq_some_iff.1 hr
    exact ⟨b, hb, hp, r, hs.symm⟩
  · rintro ⟨b, hb, hp, r, hs⟩
    exact ⟨r, read?_eq_some_iff.2 ⟨b, hb, hp, hs.symm⟩⟩

def spliced (insert a : Text) : Text :=
  match split? a with
  | some k => k.before ++ k.letter :: insert ++ k.after
  | none => a

theorem content_replace_eq_spliced (insert s : Text) :
    ((matcher q.mark).replace (Rule.insertInLiteral? insert) s).content =
      ((matcher q.mark).segments s).flatMap (Segment.spell (spliced insert)) := by
  refine List.flatMap_congr fun g _ ↦ ?_
  cases g with
  | plain c => rfl
  | span a =>
    rw [Segment.replaced, Segment.spell, spliced, Rule.insertInLiteral?]
    cases split? a <;> rfl

theorem hits_replace_eq_countP (insert s : Text) :
    ((matcher q.mark).replace (Rule.insertInLiteral? insert) s).hits =
      (((matcher q.mark).segments s).filterMap Segment.span?).countP
        fun a ↦ (split? a).isSome := by
  rw [Matcher.replace, List.countP_filterMap]
  refine List.countP_congr fun g _ ↦ ?_
  cases g with
  | plain c => rfl
  | span a => simp [Segment.isHit, Segment.span?, Rule.insertInLiteral?]

/-- The rule behind letters finds what a lexer finds that reads each character once, and that is the
only way to take literals one behind the other so that none starts outside them. Each of them that
has a free letter gets the text behind it and is a hit; all else is copied. -/
theorem segments_eq_lex (w : Whitelist) (q : Quote) (s : Text) :
    (matcher q.mark).segments s = lex q s ∧
      (∀ ps, Matcher.Packing (StandsAt q s) List.length ps ↔
        ps = (matcher q.mark).located (lex q s)) ∧
      (Rule.ofWhitelist w .letter q).apply s =
        ⟨(lex q s).flatMap (Segment.spell (spliced (w.escaped q))),
          ((lex q s).filterMap Segment.span?).countP fun a ↦ (split? a).isSome⟩ := by
  have hlex := lex_eq_segments q s
  refine ⟨hlex.symm, fun ps ↦ ?_, ?_⟩
  · have hat : StandsAt q s = (matcher q.mark).MatchesAt s := funext fun _ ↦
      propext matchesAt_iff.symm
    rw [hlex, hat]
    exact Matcher.packing_iff
  · rw [hlex, ← content_replace_eq_spliced, ← hits_replace_eq_countP (w.escaped q)]
    rfl

theorem segments_eq_lex_two_lines :
    ((matcher '"').segments "\"\\\"\n\"\\nab\" x \"1\" 'y'".toList).filterMap Segment.span? =
        ["\"\\nab\"".toList, "\"1\"".toList] ∧
      (Rule.ofWhitelist ⟨['"']⟩ .letter .double).apply
          "\"\\\"\n\"\\nab\" x \"1\" 'y'".toList =
        ⟨"\"\\\"\n\"\\na\\\"b\" x \"1\" 'y'".toList, 1⟩ := by
  obtain ⟨hsegments, -, happly⟩ :=
    segments_eq_lex ⟨['"']⟩ .double "\"\\\"\n\"\\nab\" x \"1\" 'y'".toList
  refine ⟨?_, happly.trans (by decide +kernel)⟩
  exact (congrArg (List.filterMap Segment.span?) hsegments).trans (by decide +kernel)

end Literal

end LiteralPatch
