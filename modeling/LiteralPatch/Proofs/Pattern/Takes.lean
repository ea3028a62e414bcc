import LiteralPatch.Pattern.Basic
import Mathlib.Logic.Relation

namespace LiteralPatch

structure Cursor where
  before : Option Char
  rest : Text

namespace Cursor

def Passes (P : Char → Prop) (k k' : Cursor) : Prop :=
  ∃ c, P c ∧ k.rest = c :: k'.rest ∧ k'.before = some c

def Reads : Text → Cursor → Cursor → Prop
  | [] => Eq
  | c :: s => Relation.Comp (Passes (· = c)) (Reads s)

def Rounds (R : Cursor → Cursor → Prop) : Nat → Cursor → Cursor → Prop
  | 0 => Eq
  | n + 1 => Relation.Comp R (Rounds R n)

variable {R : Cursor → Cursor → Prop} {k k' : Cursor} {s r : Text}

theorem reads_iff {b : Option Char} :
    Reads s ⟨b, r⟩ k' ↔ r = s ++ k'.rest ∧ k'.before = s.getLast?.or b := by
  induction s generalizing b r with
  | nil =>
    obtain ⟨b', r'⟩ := k'
    simp [Reads, and_comm, eq_comm]
  | cons c s ih =>
    have hlast : (c :: s).getLast?.or b = s.getLast?.or (some c) := by
      cases s <;> simp [List.getLast?_cons]
    rw [hlast]
    constructor
    · rintro ⟨⟨b', r'⟩, ⟨_, rfl, rfl, rfl⟩, h⟩
      obtain ⟨rfl, hb⟩ := ih.1 h
      exact ⟨rfl, hb⟩
    · rintro ⟨rfl, hb⟩
      exact ⟨⟨some c, s ++ k'.rest⟩, ⟨c, rfl, rfl, rfl⟩, ih.2 ⟨rfl, hb⟩⟩

theorem reads_append (s t : Text) : Reads (s ++ t) = Relation.Comp (Reads s) (Reads t) := by
  induction s with
  | nil => rw [List.nil_append, Reads, Relation.eq_comp]
  | cons c s ih => rw [List.cons_append, Reads, Reads, ih, Relation.comp_assoc]

theorem reads_singleton (c : Char) : Reads [c] = Passes (· = c) := by
  rw [Reads, Reads, Relation.comp_eq]

theorem rounds_one : Rounds R 1 = R := by
  funext k k'
  exact propext ⟨fun ⟨_, h, he⟩ ↦ he ▸ h, fun h ↦ ⟨k', h, rfl⟩⟩

theorem rounds_add (n m : Nat) :
    Rounds R (n + m) = Relation.Comp (Rounds R n) (Rounds R m) := by
  induction n with
  | zero => rw [Nat.zero_add, Rounds, Relation.eq_comp]
  | succ n ih => rw [Nat.succ_add, Rounds, Rounds, ih, Relation.comp_assoc]

theorem rounds_succ (n : Nat) : Rounds R (n + 1) = Relation.Comp (Rounds R n) R := by
  rw [rounds_add, rounds_one]

theorem comp_rounds_iff {P : Nat → Prop} {n : Nat} :
    Relation.Comp (Rounds R n) (fun k k' ↦ ∃ m, P m ∧ Rounds R m k k') k k' ↔
      ∃ m, P m ∧ Rounds R (n + m) k k' := by
  constructor
  · rintro ⟨x, hx, m, hm, h⟩
    exact ⟨m, hm, rounds_add n m ▸ ⟨x, hx, h⟩⟩
  · rintro ⟨m, hm, h⟩
    rw [rounds_add] at h
    obtain ⟨x, hx, h⟩ := h
    exact ⟨x, hx, m, hm, h⟩

end Cursor

open Cursor

namespace Pattern

def Allows (least : Nat) (most : Option Nat) (n : Nat) : Prop :=
  least ≤ n ∧ ∀ m ∈ most, n ≤ max least m

/-- A pattern takes the text between two places. -/
def Takes : Pattern → Cursor → Cursor → Prop
  | empty => Eq
  | literal s => Reads s
  | one s => Passes (s.mem · = true)
  | assertion a => fun k k' ↦ a.holds k.before k.rest.head? = true ∧ k = k'
  | group _ p => p.Takes
  | seq p q => Relation.Comp p.Takes q.Takes
  | alt p q => fun k k' ↦ p.Takes k k' ∨ q.Takes k k'
  | times p least most _ => fun k k' ↦ ∃ n, Allows least most n ∧ Rounds p.Takes n k k'

end Pattern

end LiteralPatch
