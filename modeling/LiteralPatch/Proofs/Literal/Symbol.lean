import LiteralPatch.Declaration
import LiteralPatch.Proofs.Literal.Survival
import LiteralPatch.Proofs.Patch

namespace LiteralPatch

namespace Literal

inductive Symbol
  | bare (c : Char)
  | taken (c : Char)
  | loose
  deriving DecidableEq, Repr

namespace Symbol

def spell : Symbol → Text
  | bare c => [c]
  | taken c => ['\\', c]
  | loose => ['\\']

def char : Symbol → Char
  | bare c | taken c => c
  | loose => '\\'

/-- What the symbol means between two quotes. A backslash makes a line feed of an n, goes away
before a backslash or the quote, and is kept before anything else. -/
def value (q : Quote) : Symbol → Text
  | taken c =>
    if c = '\\' ∨ c = q.mark then [c] else if c = 'n' then ['\n'] else ['\\', c]
  | x => x.spell

def Of (B T : Char → Prop) : Symbol → Prop
  | bare c => B c ∧ c ≠ '\\'
  | taken c => T c
  | loose => False

end Symbol

def symbols : Text → List Symbol
  | [] => []
  | '\\' :: [] => [.loose]
  | '\\' :: c :: s => .taken c :: symbols s
  | c :: s => .bare c :: symbols s

theorem symbols_taken (c : Char) (s : Text) :
    symbols ('\\' :: c :: s) = .taken c :: symbols s := by
  rw [symbols]

theorem symbols_bare {c : Char} (hc : c ≠ '\\') (s : Text) :
    symbols (c :: s) = .bare c :: symbols s := by
  rw [symbols]
  · exact fun h ↦ absurd h hc
  · exact fun d t h ↦ absurd h hc

theorem flatMap_spell_symbols (s : Text) : (symbols s).flatMap Symbol.spell = s := by
  fun_induction symbols s with
  | case1 => rfl
  | case2 => rfl
  | case3 c s ih =>
    rw [List.flatMap_cons, ih]
    rfl
  | case4 c s hn hn' ih =>
    rw [List.flatMap_cons, ih]
    rfl

theorem Units.of_mem_symbols {B T : Char → Prop} {s : Text} (h : Units B T s) :
    ∀ x ∈ symbols s, x.Of B T := by
  induction h with
  | nil => simp [symbols]
  | bare hc hn _ ih =>
    rw [symbols_bare hn, List.forall_mem_cons]
    exact ⟨⟨hc, hn⟩, ih⟩
  | taken hc _ ih =>
    rw [symbols_taken, List.forall_mem_cons]
    exact ⟨hc, ih⟩

end Literal

namespace Text

def newlinesForN (behind : Bool) : Text → Text
  | [] => []
  | c :: s => (if behind = true ∧ c = 'n' then '\n' else c) :: newlinesForN (c == '\\') s

theorem pair_prefix_cons_iff {c d e : Char} {s : Text} :
    [d, e] <+: c :: s ↔ c = d ∧ s.head? = some e := by
  cases s with
  | nil => simp
  | cons x s => simp [List.cons_prefix_cons, eq_comm]

theorem newlinesForN_eq_self_iff {behind : Bool} {s : Text} :
    newlinesForN behind s = s ↔
      ¬(behind = true ∧ s.head? = some 'n') ∧ ¬['\\', 'n'] <:+: s := by
  induction s generalizing behind with
  | nil => simp [newlinesForN]
  | cons c s ih =>
    have hchar : (if behind = true ∧ c = 'n' then '\n' else c) = c ↔
        ¬(behind = true ∧ c = 'n') := by
      constructor
      · intro h hn
        rw [if_pos hn, hn.2] at h
        exact absurd h (by decide)
      · intro h
        exact if_neg h
    rw [newlinesForN, List.cons.injEq, ih, List.infix_cons_iff, pair_prefix_cons_iff, hchar,
      List.head?_cons, Option.some_inj, beq_iff_eq, not_or]

end Text

namespace Quote

open Literal

variable (q : Quote) {s : Text}

def decode (body : Text) : Text := (symbols body).flatMap (Symbol.value q)

def symbol (behind : Bool) (c : Char) : Symbol :=
  if c = '\\' ∨ c = q.mark ∨ (behind = true ∧ c = 'n') then .taken c else .bare c

def symbolsOf (behind : Bool) : Text → List Symbol
  | [] => []
  | c :: s => q.symbol behind c :: symbolsOf (c == '\\') s

theorem symbolsOf_of_head?_ne (hs : s.head? ≠ some 'n') (behind : Bool) :
    q.symbolsOf behind s = q.symbolsOf false s := by
  cases s with
  | nil => rfl
  | cons c s =>
    have hc : c ≠ 'n' := fun h ↦ hs (congrArg some h)
    simp [symbolsOf, symbol, hc]

/-- Escaping makes one symbol of each character. -/
theorem symbols_escape (s : Text) : symbols (q.escape s) = q.symbolsOf false s := by
  rw [escape_eq_escapePass]
  fun_induction escapePass q s with
  | case1 => rfl
  | case2 s ih =>
    rw [symbols_taken, symbols_taken, ih]
    simp [symbolsOf, symbol]
  | case3 s hs ih =>
    have hn : s.head? ≠ some 'n' := Escape.head?_ne_of_forall hs
    rw [symbols_taken, ih, symbolsOf, q.symbolsOf_of_head?_ne hn ('\\' == '\\')]
    simp [symbol]
  | case4 s hs hc ih =>
    have hb : (q.mark == '\\') = false := by simpa using q.mark_ne_backslash
    rw [symbols_taken, ih, symbolsOf, hb]
    simp [symbol]
  | case5 c s hs hc hq ih =>
    have hb : (c == '\\') = false := by simpa using hc
    rw [symbols_bare hc, ih, symbolsOf, hb]
    simp [symbol, hc, hq]

example : symbols (Quote.double.escape ['\\', '"', '\\', 'n']) =
    [.taken '\\', .taken '"', .taken '\\', .taken 'n'] := rfl

theorem value_symbol (behind : Bool) (c : Char) :
    (q.symbol behind c).value q = [if behind = true ∧ c = 'n' then '\n' else c] := by
  have hn : 'n' ≠ q.mark := q.mark_ne_n.symm
  rw [symbol]
  by_cases hc : c = '\\' ∨ c = q.mark
  · have hne : c ≠ 'n' := by
      rcases hc with rfl | rfl
      · decide
      · exact hn.symm
    simp [Symbol.value, hc, hne]
  · by_cases h : behind = true ∧ c = 'n'
    · simp [Symbol.value, h, hn]
    · rw [not_or] at hc
      simp [Symbol.value, Symbol.spell, hc, h]

theorem flatMap_value_symbolsOf (behind : Bool) (s : Text) :
    (q.symbolsOf behind s).flatMap (Symbol.value q) = s.newlinesForN behind := by
  induction s generalizing behind with
  | nil => rfl
  | cons c s ih =>
    rw [symbolsOf, List.flatMap_cons, value_symbol, ih, Text.newlinesForN, List.singleton_append]

theorem map_char_symbolsOf (behind : Bool) (s : Text) :
    (q.symbolsOf behind s).map Symbol.char = s := by
  induction s generalizing behind with
  | nil => rfl
  | cons c s ih =>
    have hc : (q.symbol behind c).char = c := by
      rw [symbol]
      split <;> rfl
    rw [symbolsOf, List.map_cons, hc, ih]

theorem map_char_symbols_escape (s : Text) : (symbols (q.escape s)).map Symbol.char = s := by
  rw [symbols_escape, map_char_symbolsOf]

/-- An escaped text is read without a bare quote or a backslash at its end, and a backslash takes
nothing in it but a backslash, an n or the quote. Between two quotes it is one literal, unless it
has a line feed. -/
theorem escape_between_quotes (q : Quote) (s : Text) :
    (symbols (q.escape s)).flatMap Symbol.spell = q.escape s ∧
      (∀ x ∈ symbols (q.escape s),
        x.Of (· ≠ q.mark) fun c ↦ c = '\\' ∨ c = 'n' ∨ c = q.mark) ∧
      ((matcher q.mark).segments (q.mark :: q.escape s ++ [q.mark]) =
        [.span (q.mark :: q.escape s ++ [q.mark])] ↔ '\n' ∉ s) := by
  have hunits : Units (· ≠ q.mark) (fun c ↦ c = '\\' ∨ c = 'n' ∨ c = q.mark) (q.escape s) :=
    q.units_escape (fun _ _ hm ↦ hm) (.inl rfl) (.inr (.inl rfl)) (.inr (.inr rfl))
  refine ⟨flatMap_spell_symbols _, hunits.of_mem_symbols, ?_, ?_⟩
  · intro h hs
    have hspan : Segment.span (q.mark :: q.escape s ++ [q.mark]) ∈
        (matcher q.mark).segments (q.mark :: q.escape s ++ [q.mark]) := by
      rw [h]
      exact List.mem_singleton_self _
    have hline : '\n' ∉ q.mark :: q.escape s ++ [q.mark] :=
      (lineLocal_matcher q).onOneLine _ _ hspan
    have hmem : '\n' ∈ q.escape s := by
      rw [← List.count_pos_iff, q.count_escape (by decide), List.count_pos_iff]
      exact hs
    exact hline (List.mem_append_left _ (List.mem_cons_of_mem _ hmem))
  · intro hs
    have hrun := run_append (q.body_escape hs) []
    rw [List.append_nil] at hrun
    rw [Matcher.segments_of_run _ hrun, Matcher.segments_nil]

/-- An escaped text means the raw text, but for a line feed in the place of each n that stands right
behind a backslash. -/
theorem decode_escape (q : Quote) (s : Text) :
    q.decode (q.escape s) = s.newlinesForN false ∧
      (q.decode (q.escape s) = s ↔ ¬['\\', 'n'] <:+: s) := by
  have h : q.decode (q.escape s) = s.newlinesForN false := by
    rw [decode, symbols_escape, flatMap_value_symbolsOf]
  refine ⟨h, ?_⟩
  rw [h, Text.newlinesForN_eq_self_iff]
  simp

/-- Texts that are escaped alike are the same, even if they do not mean what they are. So
different whitelists never come to the same insertion or default value. -/
theorem escape_injective (q : Quote) :
    Function.Injective q.escape ∧ (∃ s, q.decode (q.escape s) ≠ s) ∧
      ∀ w w' : Whitelist, w ≠ w' →
        (∀ anchor, (Rule.ofWhitelist w anchor q).insert ≠
          (Rule.ofWhitelist w' anchor q).insert) ∧
        Declaration.withDefault w ≠ Declaration.withDefault w' := by
  have hinj (q : Quote) : Function.Injective q.escape :=
    Function.LeftInverse.injective (g := fun b ↦ (symbols b).map Symbol.char)
      q.map_char_symbols_escape
  refine ⟨hinj q, ⟨['\\', 'n'], by cases q <;> decide⟩, fun w w' hne ↦ ?_⟩
  have hescaped (q : Quote) : w.escaped q ≠ w'.escaped q := fun h ↦
    hne (congrArg Whitelist.mk (hinj q h))
  refine ⟨fun _ ↦ hescaped q, fun h ↦ hescaped .double ?_⟩
  rw [Declaration.withDefault, Declaration.withDefault, List.append_left_inj,
    List.append_right_inj] at h
  exact h

theorem escape_injective_line_break :
    Quote.double.decode (Quote.double.escape ['\\', 'n']) =
        Quote.double.decode (Quote.double.escape ['\\', '\n']) ∧
      (Whitelist.mk ['\\', 'n'] ≠ ⟨['\\', '\n']⟩) ∧
      Declaration.withDefault ⟨['\\', 'n']⟩ ≠ Declaration.withDefault ⟨['\\', '\n']⟩ := by
  have hne : Whitelist.mk ['\\', 'n'] ≠ ⟨['\\', '\n']⟩ := by decide
  obtain ⟨-, -, hdiffer⟩ := escape_injective .double
  exact ⟨by decide, hne, (hdiffer _ _ hne).2⟩

end Quote

end LiteralPatch
