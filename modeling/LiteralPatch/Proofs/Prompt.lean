import LiteralPatch.Proofs.SourceText
import LiteralPatch.Proofs.Span
import LiteralPatch.Prompt

namespace LiteralPatch

namespace Prompt

/-- The line goes through the first line feed of the input, or is all of an input without one. -/
inductive FirstLine : Bytes → Bytes → Bytes → Prop
  | ended {b : Bytes} (rest : Bytes) : 0x0a ∉ b →
    FirstLine (b ++ 0x0a :: rest) (b ++ [0x0a]) rest
  | whole {b : Bytes} : 0x0a ∉ b → FirstLine b b []

/-- A line without its end: a line feed, with one carriage return before it. -/
inductive Content : Text → Text → Prop
  | feed {s : Text} : '\n' ∉ s → s.getLast? ≠ some '\r' → Content (s ++ ['\n']) s
  | returnFeed {s : Text} : '\n' ∉ s → Content (s ++ ['\r', '\n']) s
  | whole {s : Text} : '\n' ∉ s → Content s s

variable {b input rest : Bytes} {s raw : Text}

theorem takeLine_of_not_mem (hb : 0x0a ∉ b) : takeLine b = (b, []) := by
  rw [takeLine, span_ne_of_not_mem hb]

theorem takeLine_append (hb : 0x0a ∉ b) (rest : Bytes) :
    takeLine (b ++ 0x0a :: rest) = (b ++ [0x0a], rest) := by
  rw [takeLine, span_ne_eq_iff.2 ⟨hb, rfl⟩]

theorem firstLine_takeLine (input : Bytes) :
    FirstLine input (takeLine input).1 (takeLine input).2 := by
  by_cases hm : 0x0a ∈ input
  · obtain ⟨b, rest, rfl, hb⟩ := List.eq_append_cons_of_mem hm
    rw [takeLine_append hb]
    exact .ended rest hb
  · rw [takeLine_of_not_mem hm]
    exact .whole hm

theorem withoutLineEnd_of_not_mem (hs : '\n' ∉ s) : withoutLineEnd s = s := by
  have hne (t : Text) : s.reverse ≠ '\n' :: t := fun h ↦
    hs (List.mem_reverse.1 (h ▸ List.mem_cons_self))
  rw [withoutLineEnd]
  split
  · next h => exact absurd h (hne _)
  · next h => exact absurd h (hne _)
  · rfl

theorem withoutLineEnd_append_newline (s : Text) :
    withoutLineEnd (s ++ ['\n']) = if s.getLast? = some '\r' then s.dropLast else s := by
  rcases List.eq_nil_or_concat' s with rfl | ⟨t, c, rfl⟩
  · rfl
  · by_cases hc : c = '\r'
    · simp [withoutLineEnd, hc]
    · simp [withoutLineEnd, hc]

theorem Content.withoutLineEnd_eq (h : Content s raw) : withoutLineEnd s = raw := by
  cases h with
  | feed hs hr => rw [withoutLineEnd_append_newline, if_neg hr]
  | returnFeed hs => simp [withoutLineEnd]
  | whole hs => exact withoutLineEnd_of_not_mem hs

theorem Content.newline_not_mem (h : Content s raw) : '\n' ∉ raw := by
  cases h <;> assumption

theorem content_append_newline (hs : '\n' ∉ s) :
    Content (s ++ ['\n']) (withoutLineEnd (s ++ ['\n'])) := by
  rw [withoutLineEnd_append_newline]
  split
  · next hr =>
    obtain ⟨t, rfl⟩ := List.getLast?_eq_some_iff.1 hr
    rw [List.mem_append, not_or] at hs
    rw [List.dropLast_concat, ← List.append_cons]
    exact .returnFeed hs.1
  · next hr => exact .feed hs hr

theorem newline_not_mem_of_decode? (hb : 0x0a ∉ b) (hs : Utf8.decode? b = some s) : '\n' ∉ s := by
  rw [← List.count_eq_zero, ← Utf8.count_newline_encode, Utf8.decode?_eq_some_iff.1 hs,
    List.count_eq_zero]
  exact hb

theorem FirstLine.content (h : FirstLine input b rest) (hs : Utf8.decode? b = some s) :
    Content s (withoutLineEnd s) := by
  cases h with
  | ended rest hb =>
    rw [Utf8.decode?_append_newline] at hs
    obtain ⟨t, ht, rfl⟩ := Option.map_eq_some_iff.1 hs
    exact content_append_newline (newline_not_mem_of_decode? hb ht)
  | whole hb =>
    have hn : '\n' ∉ s := newline_not_mem_of_decode? hb hs
    rw [withoutLineEnd_of_not_mem hn]
    exact .whole hn

theorem answer_of_decode? (h : Utf8.decode? (takeLine input).1 = some s) :
    answer input = (.ok (withoutLineEnd s), (takeLine input).2) := by
  simp [answer, h]

theorem answer_of_not_utf8 (h : Utf8.decode? (takeLine input).1 = none) :
    answer input = (.error .promptNotUtf8, (takeLine input).2) := by
  simp [answer, h]

theorem answer_eq_error_iff : (∃ e, (answer input).1 = .error e) ↔
    ¬ByteArray.IsValidUTF8 ⟨(takeLine input).1.toArray⟩ := by
  rw [← Utf8.isSome_decode?_iff]
  cases hd : Utf8.decode? (takeLine input).1 with
  | none => simp [answer_of_not_utf8 hd]
  | some s => simp [answer_of_decode? hd]

theorem answer_eq_ok_iff : (answer input).1 = .ok raw ↔
    ∃ s, Utf8.encode s = (takeLine input).1 ∧ Content s raw := by
  constructor
  · intro h
    cases hd : Utf8.decode? (takeLine input).1 with
    | none =>
      rw [answer_of_not_utf8 hd] at h
      cases h
    | some s =>
      rw [answer_of_decode? hd] at h
      obtain rfl := Except.ok.inj h
      exact ⟨s, Utf8.decode?_eq_some_iff.1 hd, (firstLine_takeLine input).content hd⟩
  · rintro ⟨s, hs, h⟩
    rw [answer_of_decode? (Utf8.decode?_eq_some_iff.2 hs), h.withoutLineEnd_eq]

theorem newline_not_mem_answer (h : (answer input).1 = .ok raw) : '\n' ∉ raw := by
  obtain ⟨s, -, hs⟩ := answer_eq_ok_iff.1 h
  exact hs.newline_not_mem

theorem answer_snd (input : Bytes) : (answer input).2 = (takeLine input).2 := by
  cases hd : Utf8.decode? (takeLine input).1 with
  | none => rw [answer_of_not_utf8 hd]
  | some s => rw [answer_of_decode? hd]

def answers : Nat → Bytes → List (Except ProgramError Text)
  | 0, _ => []
  | n + 1, input => (answer input).1 :: answers n (answer input).2

inductive LineEnd
  | feed
  | returnFeed
  deriving DecidableEq, Repr

def LineEnd.spell : LineEnd → Text
  | feed => ['\n']
  | returnFeed => ['\r', '\n']

def spellLines (lines : List (Text × LineEnd)) : Bytes :=
  lines.flatMap fun l ↦ Utf8.encode (l.1 ++ l.2.spell)

theorem answer_append_newline (hs : '\n' ∉ s) (rest : Bytes) :
    answer (Utf8.encode (s ++ ['\n']) ++ rest) = (.ok (withoutLineEnd (s ++ ['\n'])), rest) := by
  have hb : 0x0a ∉ Utf8.encode s := by
    rw [← List.count_eq_zero, Utf8.count_newline_encode, List.count_eq_zero]
    exact hs
  have henc : Utf8.encode (s ++ ['\n']) = Utf8.encode s ++ [0x0a] := by
    rw [Utf8.encode_append, Utf8.encode_cons, Utf8.encodeChar_newline]
    rfl
  have hline : takeLine (Utf8.encode (s ++ ['\n']) ++ rest) =
      (Utf8.encode (s ++ ['\n']), rest) := by
    rw [henc, List.append_assoc]
    exact takeLine_append hb rest
  have hd : Utf8.decode? (takeLine (Utf8.encode (s ++ ['\n']) ++ rest)).1 = some (s ++ ['\n']) := by
    rw [hline, Utf8.decode?_encode]
  rw [answer_of_decode? hd, hline]

theorem answer_line (hs : '\n' ∉ s) (hr : s.getLast? ≠ some '\r') (e : LineEnd) (rest : Bytes) :
    answer (Utf8.encode (s ++ e.spell) ++ rest) = (.ok s, rest) := by
  cases e with
  | feed =>
    have hcontent : Content (s ++ ['\n']) s := .feed hs hr
    rw [LineEnd.spell, answer_append_newline hs, hcontent.withoutLineEnd_eq]
  | returnFeed =>
    have hcontent : Content (s ++ ['\r'] ++ ['\n']) s := by
      rw [← List.append_cons]
      exact .returnFeed hs
    have hs' : '\n' ∉ s ++ ['\r'] := by simp [hs]
    rw [LineEnd.spell, List.append_cons, answer_append_newline hs', hcontent.withoutLineEnd_eq]

theorem answers_nil (n : Nat) : answers n [] = List.replicate n (.ok []) := by
  have hnil : answer [] = (.ok [], []) := by decide
  induction n with
  | zero => rfl
  | succ n ih => rw [answers, hnil, ih, List.replicate_succ]

theorem answers_spellLines {lines : List (Text × LineEnd)}
    (h : ∀ l ∈ lines, '\n' ∉ l.1 ∧ l.1.getLast? ≠ some '\r') (n : Nat) (rest : Bytes) :
    answers (lines.length + n) (spellLines lines ++ rest) =
      lines.map (fun l ↦ .ok l.1) ++ answers n rest := by
  induction lines with
  | nil =>
    rw [List.length_nil, Nat.zero_add]
    rfl
  | cons l lines ih =>
    rw [List.forall_mem_cons] at h
    have hstep : answer (spellLines (l :: lines) ++ rest) =
        (.ok l.1, spellLines lines ++ rest) := by
      rw [spellLines, List.flatMap_cons, List.append_assoc]
      exact answer_line h.1.1 h.1.2 l.2 _
    rw [List.length_cons, Nat.succ_add, answers, hstep, ih h.2]
    rfl

/-- An answer takes the first line off the input. It fails exactly if the bytes of that line are not
UTF-8; if they are, it is the line without its end and has no line feed. So questions in a row are
answered by the lines of the input, and with empty texts once the lines have run out. -/
theorem answers_take_lines :
    (∀ input : Bytes, ∃ line, FirstLine input line (answer input).2 ∧
      ((∃ e, (answer input).1 = .error e) ↔ ¬ByteArray.IsValidUTF8 ⟨line.toArray⟩) ∧
      ∀ raw, (answer input).1 = .ok raw ↔
        '\n' ∉ raw ∧ ∃ s, Utf8.encode s = line ∧ Content s raw) ∧
    ∀ (lines : List (Text × LineEnd)) (n : Nat),
      (∀ l ∈ lines, '\n' ∉ l.1 ∧ l.1.getLast? ≠ some '\r') →
      answers (lines.length + n) (spellLines lines) =
        lines.map (fun l ↦ .ok l.1) ++ List.replicate n (.ok []) := by
  refine ⟨fun input ↦ ⟨(takeLine input).1, ?_, answer_eq_error_iff, fun raw ↦ ⟨?_, ?_⟩⟩, ?_⟩
  · rw [answer_snd]
    exact firstLine_takeLine input
  · intro h
    exact ⟨newline_not_mem_answer h, answer_eq_ok_iff.1 h⟩
  · rintro ⟨-, h⟩
    exact answer_eq_ok_iff.2 h
  · intro lines n h
    have hlines := answers_spellLines h n []
    rwa [List.append_nil, answers_nil] at hlines

theorem answers_take_lines_mixed :
    let lines : List (Text × LineEnd) :=
      [([' ', 'a'], .returnFeed), ([], .feed), (['\r', 'é'], .returnFeed)]
    (∀ l ∈ lines, '\n' ∉ l.1 ∧ l.1.getLast? ≠ some '\r') ∧
      spellLines lines = [0x20, 0x61, 0x0d, 0x0a, 0x0a, 0x0d, 0xc3, 0xa9, 0x0d, 0x0a] ∧
      answers 5 (spellLines lines) =
        [.ok [' ', 'a'], .ok [], .ok ['\r', 'é'], .ok [], .ok []] := by
  intro lines
  have h : ∀ l ∈ lines, '\n' ∉ l.1 ∧ l.1.getLast? ≠ some '\r' := by decide
  obtain ⟨-, hlines⟩ := answers_take_lines
  exact ⟨h, by decide, hlines lines 2 h⟩

example : answer [0x61, 0x0a, 0xff] = (.ok ['a'], [0xff]) ∧
    answer [0x61, 0x0d] = (.ok ['a', '\r'], []) := by decide

end Prompt

end LiteralPatch
