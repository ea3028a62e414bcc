import LiteralPatch.Proofs.Pattern.Occurs
import Mathlib.Computability.Language

namespace LiteralPatch

open Cursor

namespace Cursor

def Spells (L : Language Char) (k k' : Cursor) : Prop := ∃ a ∈ L, Reads a k k'

variable {L M : Language Char} {R : Cursor → Cursor → Prop} {P : Char → Prop}

theorem spells_one : Spells 1 = Eq := by
  funext k k'
  refine propext ⟨?_, fun h ↦ ⟨[], rfl, h⟩⟩
  rintro ⟨_, rfl, h⟩
  exact h

theorem spells_singleton (s : Text) : Spells {s} = Reads s := by
  funext k k'
  refine propext ⟨?_, fun h ↦ ⟨s, rfl, h⟩⟩
  rintro ⟨_, rfl, h⟩
  exact h

theorem spells_char (P : Char → Prop) : Spells {a | ∃ c, P c ∧ a = [c]} = Passes P := by
  funext k k'
  refine propext ⟨?_, ?_⟩
  · rintro ⟨_, ⟨_, hc, rfl⟩, _, ⟨c, rfl, hk⟩, rfl⟩
    exact ⟨c, hc, hk⟩
  · rintro ⟨c, hc, hk⟩
    exact ⟨[c], ⟨c, hc, rfl⟩, k', ⟨c, rfl, hk⟩, rfl⟩

theorem spells_add (k k' : Cursor) : Spells (L + M) k k' ↔ Spells L k k' ∨ Spells M k k' := by
  simp only [Spells, Language.mem_add, or_and_right, exists_or]

theorem spells_mul : Spells (L * M) = Relation.Comp (Spells L) (Spells M) := by
  funext k k'
  refine propext ⟨?_, ?_⟩
  · rintro ⟨_, ⟨a, ha, b, hb, rfl⟩, h⟩
    rw [reads_append] at h
    obtain ⟨x, hx, h⟩ := h
    exact ⟨x, ⟨a, ha, hx⟩, b, hb, h⟩
  · rintro ⟨x, ⟨a, ha, hx⟩, b, hb, h⟩
    exact ⟨a ++ b, Language.append_mem_mul ha hb, reads_append a b ▸ ⟨x, hx, h⟩⟩

theorem spells_pow (n : Nat) : Spells (L ^ n) = Rounds (Spells L) n := by
  induction n with
  | zero => rw [pow_zero, Rounds, spells_one]
  | succ n ih => rw [pow_succ', Rounds, spells_mul, ih]

end Cursor

namespace Pattern

def IsPlain : Pattern → Prop
  | empty | literal _ | one _ => True
  | assertion _ => False
  | group _ p | times p _ _ _ => p.IsPlain
  | seq p q | alt p q => p.IsPlain ∧ q.IsPlain

def language : Pattern → Language Char
  | empty => 1
  | literal s => {s}
  | one s => {a | ∃ c, s.mem c = true ∧ a = [c]}
  | assertion _ => 0
  | group _ p => p.language
  | seq p q => p.language * q.language
  | alt p q => p.language + q.language
  | times p least most _ => {a | ∃ n, Allows least most n ∧ a ∈ p.language ^ n}

variable {p : Pattern}

/-- What a plain pattern takes does not depend on what is around it. -/
theorem takes_eq_spells (hp : p.IsPlain) : p.Takes = Spells p.language := by
  induction p with
  | empty => exact spells_one.symm
  | literal s => exact (spells_singleton s).symm
  | one s => exact (spells_char (s.mem · = true)).symm
  | assertion a => exact hp.elim
  | group n p ih => exact ih hp
  | seq p q ihp ihq => rw [Takes, language, spells_mul, ihp hp.1, ihq hp.2]
  | alt p q ihp ihq =>
    funext k k'
    rw [Takes, language, spells_add, ihp hp.1, ihq hp.2]
  | times p least most isLazy ih =>
    funext k k'
    rw [Takes, ih hp]
    simp only [← spells_pow]
    refine propext ⟨?_, ?_⟩
    · rintro ⟨n, hn, a, ha, h⟩
      exact ⟨a, ⟨n, hn, ha⟩, h⟩
    · rintro ⟨a, ⟨n, hn, ha⟩, h⟩
      exact ⟨n, hn, a, ha, h⟩

theorem takes_iff (hp : p.IsPlain) {b : Option Char} {s : Text} {k : Cursor} :
    p.Takes ⟨b, s⟩ k ↔ ∃ a ∈ p.language, s = a ++ k.rest ∧ k.before = a.getLast?.or b := by
  simp only [takes_eq_spells hp, Spells, reads_iff]

/-- The machine for a plain pattern finds a text of its language anywhere in another one. -/
theorem occursIn_program_iff_mem_language (hp : p.IsPlain) (s : Text) :
    p.program.occursIn s = true ↔ ∃ a x r, s = a ++ (x ++ r) ∧ x ∈ p.language := by
  rw [occursIn_program_iff]
  constructor
  · rintro ⟨a, b, k, rfl, h⟩
    obtain ⟨x, hx, rfl, -⟩ := (takes_iff hp).1 h
    exact ⟨a, x, k.rest, rfl, hx⟩
  · rintro ⟨a, x, r, rfl, hx⟩
    exact ⟨a, x ++ r, ⟨x.getLast?.or a.getLast?, r⟩, rfl, (takes_iff hp).2 ⟨x, hx, rfl, rfl⟩⟩

theorem mem_language_seq {q : Pattern} {s : Text} :
    s ∈ (seq p q).language ↔ ∃ a ∈ p.language, ∃ b ∈ q.language, s = a ++ b := by
  simp only [language, Language.mem_mul, eq_comm]

theorem mem_language_star {s : Text} {isLazy : Bool} :
    s ∈ (times p 0 none isLazy).language ↔
      ∃ xs : List Text, (∀ x ∈ xs, x ∈ p.language) ∧ s = xs.flatten := by
  constructor
  · rintro ⟨n, -, h⟩
    obtain ⟨xs, rfl, -, hxs⟩ := Language.mem_pow.1 h
    exact ⟨xs, hxs, rfl⟩
  · rintro ⟨xs, hxs, rfl⟩
    exact ⟨xs.length, ⟨Nat.zero_le _, nofun⟩, Language.mem_pow.2 ⟨xs, rfl, rfl, hxs⟩⟩

theorem mem_language_star_one {S : CharSet} {s : Text} {isLazy : Bool} :
    s ∈ (times (one S) 0 none isLazy).language ↔ ∀ c ∈ s, S.mem c = true := by
  rw [mem_language_star]
  constructor
  · rintro ⟨xs, hxs, rfl⟩ c hc
    obtain ⟨x, hx, hc⟩ := List.mem_flatten.1 hc
    obtain ⟨d, hd, rfl⟩ := hxs x hx
    exact List.mem_singleton.1 hc ▸ hd
  · intro h
    refine ⟨s.map fun c ↦ [c], fun x hx ↦ ?_, ?_⟩
    · obtain ⟨c, hc, rfl⟩ := List.mem_map.1 hx
      exact ⟨c, h c hc, rfl⟩
    · rw [← List.flatMap_def, List.flatMap_singleton']

end Pattern

end LiteralPatch
