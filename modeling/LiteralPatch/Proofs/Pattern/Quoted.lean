import LiteralPatch.Pattern.Read
import LiteralPatch.Proofs.Pattern.Build
import LiteralPatch.Proofs.Pattern.Occurs

namespace LiteralPatch

open Cursor

namespace Pattern

def signs : Text := ['(', ')', '[', '\x7b', '|', '?', '*', '+', '.', '^', '$', '\\']

def quoted (c : Char) : Text := if c ∈ signs then ['\\', c] else [c]

end Pattern

namespace PatternReader

open Pattern

theorem run_bind_of_ok {α β : Type} {x : ReadPattern α} {f : α → ReadPattern β} {a : α}
    {r r' : PatternReader} (h : x.run r = .ok (a, r')) : (x >>= f).run r = (f a).run r' := by
  rw [StateT.run_bind, h]
  rfl

variable {c : Char} {t : Text} {n : Nat} {b : Branches} {r : PatternReader}

theorem run_has (f : PatternFlag) (hf : r.flags = [.unicode]) :
    (has f).run r = .ok (f = .unicode, r) := by
  change Except.ok (r.flags.contains f, r) = _
  rw [hf]
  cases f <;> rfl

theorem readLiteral_of_unicode (place : Stretch) (hf : r.flags = [.unicode]) :
    (readLiteral c false place).run r = .ok (ofChar c, r) := by
  rw [readLiteral, run_bind_of_ok (run_has .unicode hf)]
  simp only [Bool.false_and, decide_true, Bool.not_true, Bool.and_false, Bool.false_eq_true,
    if_false]
  exact run_bind_of_ok (run_has .ignoreCase hf)

theorem readPart_of_not_mem_signs (hc : c ∉ signs) (hr : r.rest = c :: t)
    (hf : r.flags = [.unicode]) :
    (readPart c).run r = .ok (ofChar c, { r with rest := t, pos := r.pos + 1 }) := by
  obtain ⟨rest, length, pos, flags, groups, names, deferred⟩ := r
  obtain rfl := hr
  obtain rfl := hf
  simp only [signs, List.mem_cons, not_or] at hc
  obtain ⟨-, -, -, -, -, -, -, -, hdot, hcaret, hdollar, hslash, -⟩ := hc
  unfold readPart
  split
  · exact (hdot rfl).elim
  · exact (hcaret rfl).elim
  · exact (hdollar rfl).elim
  · rw [readAtom, if_neg hslash]
    exact readLiteral_of_unicode ⟨pos, pos + 1⟩ rfl

theorem readBody_quoted (hr : r.rest = quoted c ++ t) (hf : r.flags = [.unicode]) :
    (readBody (n + 1) [] b).run r =
      (readBody n [] (b.add ⟨r.pos, some (ofChar c), []⟩)).run
        { r with rest := t, pos := r.pos + (quoted c).length } := by
  obtain ⟨rest, length, pos, flags, groups, names, deferred⟩ := r
  obtain rfl := hr
  obtain rfl := hf
  by_cases hc : c ∈ signs
  · simp only [signs, List.mem_cons, List.not_mem_nil, or_false] at hc
    rcases hc with rfl | rfl | rfl | rfl | rfl | rfl | rfl | rfl | rfl | rfl | rfl | rfl <;> rfl
  · rw [quoted, if_neg hc]
    have hpart := readPart_of_not_mem_signs
      (r := ⟨c :: t, length, pos, [.unicode], groups, names, deferred⟩) hc rfl rfl
    simp only [signs, List.mem_cons, not_or] at hc
    obtain ⟨h₁, h₂, h₃, h₄, h₅, h₆, h₇, h₈, -⟩ := hc
    rw [readBody, run_bind_of_ok (show skipSpace.run _ = .ok ((), _) from rfl),
      run_bind_of_ok (show place.run _ = .ok (pos, _) from rfl),
      run_bind_of_ok (show peek?.run _ = .ok (some c, _) from rfl)]
    split
    · next h => cases h
    · next h => exact (h₁ (Option.some.inj h)).elim
    · next h => exact (h₂ (Option.some.inj h)).elim
    · next h => exact (h₅ (Option.some.inj h)).elim
    · next h => exact (h₃ (Option.some.inj h)).elim
    · next h => exact (h₆ (Option.some.inj h)).elim
    · next h => exact (h₇ (Option.some.inj h)).elim
    · next h => exact (h₈ (Option.some.inj h)).elim
    · next h => exact (h₄ (Option.some.inj h)).elim
    · next h =>
      obtain rfl := Option.some.inj h
      exact run_bind_of_ok hpart

structure Branches.Spells (b : Branches) (u : Text) : Prop where
  finished_eq : b.finished = []
  pattern_eq : b.parts.map Part.pattern = u.reverse.map fun c ↦ some (ofChar c)
  outline_eq : ∀ part ∈ b.parts, part.outline = []

namespace Branches.Spells

variable {u : Text}

theorem none (start : Nat) : (Branches.none start).Spells [] := ⟨rfl, rfl, nofun⟩

theorem add (h : b.Spells u) (start : Nat) (c : Char) :
    (b.add ⟨start, some (ofChar c), []⟩).Spells (u ++ [c]) where
  finished_eq := h.finished_eq
  pattern_eq := by
    rw [Branches.add, List.map_cons, h.pattern_eq, List.reverse_concat, List.map_cons]
  outline_eq := List.forall_mem_cons.2 ⟨rfl, h.outline_eq⟩

theorem foldr_outline {parts : List Part} (h : ∀ part ∈ parts, part.outline = []) :
    parts.foldr (fun part (o : Outline) ↦ o.beside part.outline) [] = [] := by
  induction parts with
  | nil => rfl
  | cons part parts ih =>
    obtain ⟨hpart, h⟩ := List.forall_mem_cons.1 h
    rw [List.foldr_cons, ih h, hpart]
    rfl

theorem all_eq (h : b.Spells u) (stop : Nat) : ∃ o : Outline, o.tooDeep? = Option.none ∧
    b.all stop = (Pattern.sequence (u.map ofChar), o) := by
  have hparts : (b.parts.filterMap Part.pattern).reverse = u.map ofChar := by
    calc (b.parts.filterMap Part.pattern).reverse
        = ((b.parts.map Part.pattern).filterMap id).reverse := by
          rw [List.filterMap_map, Function.id_comp]
      _ = (u.reverse.map ofChar).reverse := by
        rw [h.pattern_eq, List.filterMap_map]
        exact congrArg List.reverse (congrFun (List.filterMap_eq_map (f := ofChar)) u.reverse)
      _ = u.map ofChar := by rw [List.map_reverse, List.reverse_reverse]
  have hall : b.all stop = b.sequence stop := by rw [Branches.all, h.finished_eq]
  have hseq : b.sequence stop = (Pattern.sequence (u.map ofChar),
      if b.parts.length < 2 then [] else Outline.around ⟨b.last, stop⟩ []) := by
    rw [Branches.sequence, hparts, foldr_outline h.outline_eq]
  refine ⟨_, ?_, hall.trans hseq⟩
  split <;> rfl

end Branches.Spells

theorem readBody_flatMap_quoted {s u : Text} (hn : s.length < n) (hb : b.Spells u)
    (hr : r.rest = s.flatMap quoted) (hf : r.flags = [.unicode]) :
    ∃ o r', (readBody n [] b).run r = .ok ((Pattern.sequence ((u ++ s).map ofChar), o), r') ∧
      o.tooDeep? = none ∧ r'.deferred = r.deferred := by
  induction s generalizing n b r u with
  | nil =>
    obtain ⟨n, rfl⟩ := Nat.exists_eq_succ_of_ne_zero (Nat.ne_of_gt hn)
    obtain ⟨o, ho, hall⟩ := hb.all_eq r.pos
    refine ⟨o, r, ?_, ho, rfl⟩
    obtain ⟨rest, length, pos, flags, groups, names, deferred⟩ := r
    obtain rfl := hr
    obtain rfl := hf
    rw [List.append_nil, ← hall]
    rfl
  | cons c s ih =>
    obtain ⟨n, rfl⟩ := Nat.exists_eq_succ_of_ne_zero (Nat.ne_zero_of_lt hn)
    rw [readBody_quoted (hr.trans List.flatMap_cons) hf]
    have hlt : s.length < n := Nat.lt_of_succ_lt_succ hn
    simpa using ih hlt (hb.add r.pos c)
      (r := { r with rest := s.flatMap quoted, pos := r.pos + (quoted c).length }) rfl hf

end PatternReader

namespace Pattern

theorem length_le_length_flatMap_quoted (s : Text) : s.length ≤ (s.flatMap quoted).length := by
  induction s with
  | nil => exact Nat.le_refl 0
  | cons c s ih =>
    have hc : 1 ≤ (quoted c).length := by
      unfold quoted
      split <;> simp
    rw [List.flatMap_cons, List.length_append, List.length_cons]
    omega

/-- A text with a backslash before each sign reads as itself. -/
theorem read_flatMap_quoted (s : Text) :
    Pattern.read (s.flatMap quoted) = .ok (sequence (s.map ofChar)) := by
  have hn := Nat.lt_succ_of_le (length_le_length_flatMap_quoted s)
  obtain ⟨o, r', hrun, ho, hd⟩ := PatternReader.readBody_flatMap_quoted (u := [])
    (r := { rest := s.flatMap quoted, length := (s.flatMap quoted).length }) hn (.none 0) rfl rfl
  simp only [Pattern.read, hrun, ho, hd, List.nil_append]

theorem takes_chars (s : Text) : (sequence (s.map ofChar)).Takes = Reads s := by
  rw [takes_sequence]
  induction s with
  | nil => rfl
  | cons c s ih =>
    rw [List.map_cons, InTurn, ih, ofChar, Takes, ← reads_append, List.singleton_append]

/-- A pattern that is a quoted text occurs where the text does. -/
theorem occursIn_quoted_iff {s t : Text} :
    (sequence (s.map ofChar)).program.occursIn t = true ↔ s <:+: t := by
  rw [occursIn_program_iff, takes_chars]
  constructor
  · rintro ⟨a, b, k, rfl, h⟩
    obtain ⟨rfl, -⟩ := reads_iff.1 h
    exact ⟨a, k.rest, List.append_assoc ..⟩
  · rintro ⟨a, r, rfl⟩
    exact ⟨a, s ++ r, ⟨s.getLast?.or a.getLast?, r⟩, List.append_assoc .., reads_iff.2 ⟨rfl, rfl⟩⟩

end Pattern

end LiteralPatch
