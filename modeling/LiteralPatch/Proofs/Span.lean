import Mathlib.Data.List.Infix
import Mathlib.Data.List.TakeDrop
import Mathlib.Data.List.TakeWhile

namespace LiteralPatch

variable {α : Type} [DecidableEq α] {c : α} {s a b : List α}

theorem ne_of_not_mem (h : c ∉ s) : ∀ x ∈ s, decide (x ≠ c) = true := by
  intro x hx
  simpa using ne_of_mem_of_not_mem hx h

theorem span_ne_of_not_mem (h : c ∉ s) : s.span (· ≠ c) = (s, []) := by
  rw [List.span_eq_takeWhile_dropWhile, List.takeWhile_eq_self_iff.2 (ne_of_not_mem h),
    List.dropWhile_eq_nil_iff.2 (ne_of_not_mem h)]

theorem span_ne_eq_iff : s.span (· ≠ c) = (a, c :: b) ↔ c ∉ a ∧ s = a ++ c :: b := by
  rw [List.span_eq_takeWhile_dropWhile, Prod.mk.injEq]
  constructor
  · rintro ⟨ha, hb⟩
    refine ⟨fun hc ↦ ?_, ?_⟩
    · have hne := List.mem_takeWhile_imp (ha ▸ hc)
      simp at hne
    · rw [← ha, ← hb, List.takeWhile_append_dropWhile]
  · rintro ⟨ha, rfl⟩
    rw [List.takeWhile_append_of_pos (ne_of_not_mem ha),
      List.dropWhile_append_of_pos (ne_of_not_mem ha)]
    simp

section Lookup

variable {κ β : Type} [BEq κ] [LawfulBEq κ] {k : κ} {v : β} {entries : List (κ × β)}

theorem mem_of_lookup (h : entries.lookup k = some v) : (k, v) ∈ entries := by
  obtain ⟨l, r, rfl, -⟩ := List.lookup_eq_some_iff.1 h
  simp

theorem lookup_of_mem (hn : (entries.map Prod.fst).Nodup) (h : (k, v) ∈ entries) :
    entries.lookup k = some v := by
  obtain ⟨l, r, rfl⟩ := List.append_of_mem h
  refine List.lookup_eq_some_iff.2 ⟨l, r, rfl, fun e he ↦ ?_⟩
  rw [List.map_append, List.map_cons] at hn
  have hne := (List.nodup_append.1 hn).2.2 e.1 (List.mem_map_of_mem he) k List.mem_cons_self
  exact bne_iff_ne.2 (Ne.symm hne)

end Lookup

end LiteralPatch
