import LiteralPatch.Proofs.CharSet
import LiteralPatch.Proofs.Span
import LiteralPatch.Text.Case
import Mathlib.Data.List.Chain

namespace LiteralPatch

namespace CaseRun

variable {n m r : Nat} {run : CaseRun}

/-- No member of the second run is a representative of the first one. -/
def isApart (run run' : CaseRun) : Bool :=
  (run.last - run.distance).blt run'.first || run'.last.blt (run.first - run.distance) ||
    ((run.step.beq 2 || run.first.beq run.last) && run'.step.beq 2 &&
      ((run.first - run.distance + run'.first) % 2).beq 1)

theorem isApart_of_mem_all : ∀ run ∈ all, ∀ run' ∈ all, run.isApart run' = true := by
  have h : (all.all fun run ↦ all.all run.isApart) = true := by decide +kernel
  exact fun run hrun run' hrun' ↦ List.all_eq_true.1 (List.all_eq_true.1 h run hrun) run' hrun'

theorem sound_of_mem_all : ∀ run ∈ all,
    (run.step = 1 ∨ run.step = 2) ∧ run.first ≤ run.last ∧ run.distance ≤ run.first := by
  decide +kernel

theorem isChain_members : (members.map Prod.fst).IsChain (· < ·) := by
  decide +kernel

theorem isValidChar_of_mem_members : ∀ x ∈ members, x.1.isValidChar ∧ x.2.isValidChar := by
  decide +kernel

theorem mem_members : (n, r) ∈ members ↔ ∃ run ∈ all, ∃ i,
    i ≤ (run.last - run.first) / run.step ∧ n = run.first + run.step * i ∧
      r = run.first + run.step * i - run.distance := by
  simp only [members, List.mem_flatMap, List.mem_map, List.mem_range, Nat.lt_succ_iff,
    Prod.mk.injEq]
  exact ⟨fun ⟨run, h, i, hi, hn, hr⟩ ↦ ⟨run, h, i, hi, hn.symm, hr.symm⟩,
    fun ⟨run, h, i, hi, hn, hr⟩ ↦ ⟨run, h, i, hi, hn.symm, hr.symm⟩⟩

/-- A representative is a member of no class but its own. -/
theorem not_mem_members_of_mem (h : (n, r) ∈ members) : (r, m) ∉ members := by
  intro h'
  obtain ⟨run, hrun, i, hi, -, rfl⟩ := mem_members.1 h
  obtain ⟨run', hrun', i', hi', hr, -⟩ := mem_members.1 h'
  have hapart := isApart_of_mem_all run hrun run' hrun'
  obtain ⟨hstep, hle, hd⟩ := sound_of_mem_all run hrun
  obtain ⟨hstep', hle', -⟩ := sound_of_mem_all run' hrun'
  simp only [isApart, Bool.or_eq_true, Bool.and_eq_true, Nat.blt_eq, Nat.beq_eq] at hapart
  rcases hstep with hstep | hstep <;> rcases hstep' with hstep' | hstep' <;>
    · rw [hstep] at hi hr hapart
      rw [hstep'] at hi' hr hapart
      omega

theorem nodup_members : (members.map Prod.fst).Nodup :=
  (List.isChain_iff_pairwise.1 isChain_members).imp Nat.ne_of_lt

/-- The smallest of the letters that differ in case only. -/
def representative (n : Nat) : Nat := (members.lookup n).getD n

theorem representative_of_mem (h : (n, r) ∈ members) : representative n = r := by
  rw [representative, lookup_of_mem nodup_members h, Option.getD_some]

theorem representative_of_mem_right (h : (n, r) ∈ members) : representative r = r := by
  cases hr : members.lookup r with
  | none => rw [representative, hr, Option.getD_none]
  | some m => exact (not_mem_members_of_mem h (mem_of_lookup hr)).elim

theorem representative_eq_iff : representative n = r ↔
    (n, r) ∈ members ∨ (n = r ∧ ∀ m, (n, m) ∉ members) := by
  cases hn : members.lookup n with
  | none =>
    rw [representative, hn, Option.getD_none]
    have hnot (m : Nat) : (n, m) ∉ members := fun h ↦ by
      rw [lookup_of_mem nodup_members h] at hn
      cases hn
    simp [hnot]
  | some m =>
    have hm := mem_of_lookup hn
    rw [representative_of_mem hm]
    constructor
    · rintro rfl
      exact .inl hm
    · rintro (h | ⟨-, h⟩)
      · exact (representative_of_mem hm).symm.trans (representative_of_mem h)
      · exact (h m hm).elim

end CaseRun

namespace CharSet

open CaseRun

variable {s : CharSet} {c : Char} {n r : Nat}

theorem contains_iff : s.contains n = true ↔ Covers s.ranges n := by
  simp [contains, Covers]

theorem covers_pair {k : Nat} : Covers [(n, n), (r, r)] k ↔ k = n ∨ k = r := by
  rw [covers_cons, covers_singleton, ← Nat.le_antisymm_iff, eq_comm]

/-- A caseless set has the characters that differ from its own ones in case only. -/
theorem mem_caseless : s.caseless.mem c = true ↔
    ∃ d, s.mem d = true ∧ representative c.toNat = representative d.toNat := by
  rw [caseless, mem_ofRanges, covers_append, covers_flatMap]
  simp only [covers_pair, List.mem_filter, List.contains_iff_mem, List.mem_map, Bool.or_eq_true,
    contains_iff, Prod.exists, exists_eq_right]
  constructor
  · rintro (h | ⟨n, r, ⟨hn, m, hm, hs⟩, hk⟩)
    · exact ⟨c, mem_iff_covers.2 h, rfl⟩
    · have hc : representative c.toNat = r := by
        rcases hk with rfl | rfl
        · exact representative_of_mem hn
        · exact representative_of_mem_right hn
      obtain ⟨hvm, hvr⟩ := isValidChar_of_mem_members _ hm
      rcases hs with hs | hs
      · refine ⟨Char.ofNat m, ?_, ?_⟩
        · rwa [mem_iff_covers, toNat_ofNat hvm]
        · rw [hc, toNat_ofNat hvm, representative_of_mem hm]
      · refine ⟨Char.ofNat r, ?_, ?_⟩
        · rwa [mem_iff_covers, toNat_ofNat hvr]
        · rw [hc, toNat_ofNat hvr, representative_of_mem_right hm]
  · rintro ⟨d, hd, hcd⟩
    rw [mem_iff_covers] at hd
    rcases representative_eq_iff.1 hcd with hc | ⟨hc, -⟩
    · rcases representative_eq_iff.1 (Eq.refl (representative d.toNat)) with hd' | ⟨hd', -⟩
      · exact .inr ⟨_, _, ⟨hc, _, hd', .inl hd⟩, .inl rfl⟩
      · exact .inr ⟨_, _, ⟨hc, _, hc, .inr (hd' ▸ hd)⟩, .inl rfl⟩
    · rcases representative_eq_iff.1 hc.symm with hd' | ⟨hd', -⟩
      · exact .inr ⟨_, _, ⟨hd', _, hd', .inl hd⟩, .inr rfl⟩
      · exact .inl (hd' ▸ hd)

theorem mem_caseless_caseless : s.caseless.caseless.mem c = true ↔ s.caseless.mem c = true := by
  rw [mem_caseless, mem_caseless]
  constructor
  · rintro ⟨d, hd, hc⟩
    obtain ⟨d', hd', hd⟩ := mem_caseless.1 hd
    exact ⟨d', hd', hc.trans hd⟩
  · rintro ⟨d, hd, hc⟩
    exact ⟨d, mem_caseless.2 ⟨d, hd, rfl⟩, hc⟩

end CharSet

end LiteralPatch
