import LiteralPatch.Pattern.Build
import LiteralPatch.Proofs.CharSet
import LiteralPatch.Proofs.Pattern.Takes

namespace LiteralPatch

open Cursor

namespace Pattern

def InTurn : List Pattern → Cursor → Cursor → Prop
  | [] => Eq
  | p :: ps => Relation.Comp p.Takes (InTurn ps)

variable {p : Pattern} {ps qs : List Pattern} {k k' : Cursor}

theorem inTurn_append : InTurn (ps ++ qs) = Relation.Comp (InTurn ps) (InTurn qs) := by
  induction ps with
  | nil => rw [List.nil_append, InTurn, Relation.eq_comp]
  | cons p ps ih => rw [List.cons_append, InTurn, InTurn, ih, Relation.comp_assoc]

theorem inTurn_singleton (p : Pattern) : InTurn [p] = p.Takes := by
  rw [InTurn, InTurn, Relation.comp_eq]

theorem takes_ofParts (ps : List Pattern) : (ofParts ps).Takes = InTurn ps := by
  induction ps with
  | nil => rfl
  | cons p ps ih =>
    cases ps with
    | nil => exact (inTurn_singleton p).symm
    | cons q qs => exact congrArg (Relation.Comp p.Takes) ih

theorem inTurn_parts (p : Pattern) : InTurn p.parts = p.Takes := by
  induction p with
  | empty => rfl
  | seq p q _ ihq => rw [parts, InTurn, ihq, Takes]
  | _ => exact inTurn_singleton _

theorem inTurn_flatMap_parts (ps : List Pattern) : InTurn (ps.flatMap parts) = InTurn ps := by
  induction ps with
  | nil => rfl
  | cons p ps ih => rw [List.flatMap_cons, inTurn_append, inTurn_parts, ih, InTurn]

theorem inTurn_joinLiterals (ps : List Pattern) : InTurn (joinLiterals ps) = InTurn ps := by
  induction ps with
  | nil => rfl
  | cons p ps ih =>
    rw [InTurn, ← ih, joinLiterals, joinLiterals, List.foldr_cons]
    split
    · next s t more h =>
      rw [h, InTurn, InTurn, Takes, Takes, Takes, reads_append, Relation.comp_assoc]
    · rw [InTurn]

theorem takes_sequence (ps : List Pattern) : (sequence ps).Takes = InTurn ps := by
  rw [sequence, takes_ofParts, inTurn_joinLiterals, inTurn_flatMap_parts]

theorem takes_ofAlternatives (ps : List Pattern) :
    (ofAlternatives ps).Takes k k' ↔ ∃ p ∈ ps, p.Takes k k' := by
  induction ps with
  | nil => simp [ofAlternatives, Takes, Passes, CharSet.mem, CharSet.empty]
  | cons p ps ih =>
    cases ps with
    | nil => simp [ofAlternatives]
    | cons q qs =>
      change p.Takes k k' ∨ (ofAlternatives (q :: qs)).Takes k k' ↔ _
      rw [ih]
      simp only [List.mem_cons, exists_eq_or_imp]

theorem takes_alternatives (p : Pattern) :
    (∃ q ∈ p.alternatives, q.Takes k k') ↔ p.Takes k k' := by
  induction p with
  | alt p q _ ihq =>
    simp only [alternatives, List.mem_cons, exists_eq_or_imp] at ihq ⊢
    exact or_congr_right ihq
  | _ => simp [alternatives]

theorem takes_flatMap_alternatives (ps : List Pattern) :
    (∃ q ∈ ps.flatMap alternatives, q.Takes k k') ↔ ∃ p ∈ ps, p.Takes k k' := by
  constructor
  · rintro ⟨q, hq, h⟩
    obtain ⟨p, hp, hq⟩ := List.mem_flatMap.1 hq
    exact ⟨p, hp, (takes_alternatives p).1 ⟨q, hq, h⟩⟩
  · rintro ⟨p, hp, h⟩
    obtain ⟨q, hq, h⟩ := (takes_alternatives p).2 h
    exact ⟨q, List.mem_flatMap.2 ⟨p, hp, hq⟩, h⟩

theorem takes_ofSet (s : CharSet) : (ofSet s).Takes = Passes (s.mem · = true) := by
  rw [ofSet]
  split
  · next c h =>
    simp only [CharSet.mem_iff_of_only? h]
    exact reads_singleton c
  · rfl

theorem takes_of_characters? {s : CharSet} (h : p.characters? = some s) :
    p.Takes = Passes (s.mem · = true) := by
  unfold characters? at h
  split at h
  · next c =>
    cases h
    simp only [CharSet.mem_one]
    exact reads_singleton c
  · cases h

theorem takes_of_members? {s : CharSet} (h : p.members? = some s) :
    p.Takes = Passes (s.mem · = true) := by
  unfold members? at h
  split at h
  · cases h
    rfl
  · cases h

theorem takes_of_mapM {f : Pattern → Option CharSet}
    (hf : ∀ p s, f p = some s → p.Takes = Passes (s.mem · = true)) {ss : List CharSet}
    (h : ps.mapM f = some ss) :
    (∃ p ∈ ps, p.Takes k k') ↔ ∃ s ∈ ss, Passes (s.mem · = true) k k' := by
  induction ps generalizing ss with
  | nil =>
    cases h
    simp
  | cons p ps ih =>
    rw [List.mapM_cons] at h
    obtain ⟨s, hs, h⟩ := Option.bind_eq_some_iff.1 h
    obtain ⟨ss', hss, h⟩ := Option.bind_eq_some_iff.1 h
    cases h
    simp only [List.mem_cons, exists_eq_or_imp]
    rw [hf p s hs, ih hss]

theorem takes_of_asSet? {s : CharSet} (h : asSet? ps = some s) :
    (∃ p ∈ ps, p.Takes k k') ↔ (ofSet s).Takes k k' := by
  obtain ⟨ss, hss, rfl⟩ := Option.map_eq_some_iff.1 h
  have hps : (∃ p ∈ ps, p.Takes k k') ↔ ∃ s ∈ ss, Passes (s.mem · = true) k k' := by
    cases hchar : ps.mapM characters? with
    | some ss' =>
      rw [hchar] at hss
      cases hss
      exact takes_of_mapM (fun p s ↦ takes_of_characters?) hchar
    | none =>
      rw [hchar] at hss
      exact takes_of_mapM (fun p s ↦ takes_of_members?) hss
  rw [hps, takes_ofSet]
  constructor
  · rintro ⟨s, hs, c, hc, hk⟩
    exact ⟨c, CharSet.mem_unions.2 ⟨s, hs, hc⟩, hk⟩
  · rintro ⟨c, hc, hk⟩
    obtain ⟨s, hs, hc⟩ := CharSet.mem_unions.1 hc
    exact ⟨s, hs, c, hc, hk⟩

theorem prefix_of_commonStart (ps qs : List Pattern) :
    commonStart ps qs <+: ps ∧ commonStart ps qs <+: qs := by
  fun_induction commonStart ps qs with
  | case1 p ps qs ih =>
    exact ⟨List.cons_prefix_cons.2 ⟨rfl, ih.1⟩, List.cons_prefix_cons.2 ⟨rfl, ih.2⟩⟩
  | case2 => exact ⟨List.nil_prefix, List.nil_prefix⟩
  | case3 => exact ⟨List.nil_prefix, List.nil_prefix⟩

theorem prefix_of_foldl_commonStart (ps : List Pattern) (start : List Pattern) :
    ps.foldl (fun start q ↦ commonStart start q.parts) start <+: start ∧
      ∀ p ∈ ps, ps.foldl (fun start q ↦ commonStart start q.parts) start <+: p.parts := by
  induction ps generalizing start with
  | nil => exact ⟨List.prefix_rfl, nofun⟩
  | cons p ps ih =>
    obtain ⟨hstart, hps⟩ := ih (commonStart start p.parts)
    obtain ⟨hleft, hright⟩ := prefix_of_commonStart start p.parts
    exact ⟨hstart.trans hleft, List.forall_mem_cons.2 ⟨hstart.trans hright, hps⟩⟩

theorem shared_prefix_parts (ps : List Pattern) : ∀ p ∈ ps, shared ps <+: p.parts := by
  cases ps with
  | nil => exact nofun
  | cons p ps =>
    rw [shared]
    split
    · obtain ⟨hp, hps⟩ := prefix_of_foldl_commonStart ps p.parts
      exact List.forall_mem_cons.2 ⟨hp, hps⟩
    · exact fun _ _ ↦ List.nil_prefix

theorem takes_rests {start : List Pattern} (h : ∀ p ∈ ps, start <+: p.parts) :
    (∃ p ∈ ps, p.Takes k k') ↔ Relation.Comp (InTurn start)
      (fun k k' ↦ ∃ p ∈ ps.map fun p ↦ sequence (p.parts.drop start.length), p.Takes k k')
        k k' := by
  have hp (p : Pattern) (hp : p ∈ ps) : p.Takes =
      Relation.Comp (InTurn start) (sequence (p.parts.drop start.length)).Takes := by
    obtain ⟨rest, hrest⟩ := h p hp
    rw [takes_sequence, ← inTurn_append, ← inTurn_parts p, ← hrest, List.drop_left]
  constructor
  · rintro ⟨p, hmem, ht⟩
    rw [hp p hmem] at ht
    obtain ⟨x, hx, ht⟩ := ht
    exact ⟨x, hx, _, List.mem_map_of_mem hmem, ht⟩
  · rintro ⟨x, hx, _, hrest, ht⟩
    obtain ⟨p, hmem, rfl⟩ := List.mem_map.1 hrest
    exact ⟨p, hmem, hp p hmem ▸ ⟨x, hx, ht⟩⟩

theorem takes_factored (n : Nat) (ps : List Pattern) (k k' : Cursor) :
    (factored n ps).Takes k k' ↔ ∃ p ∈ ps, p.Takes k k' := by
  induction n generalizing ps k k' with
  | zero => exact takes_ofAlternatives ps
  | succ n ih =>
    rw [← takes_flatMap_alternatives, factored]
    split
    · next h =>
      rw [h]
      exact takes_ofAlternatives []
    · next p h =>
      rw [h]
      simp
    · split
      · next s h => exact (takes_of_asSet? h).symm
      · split
        · exact takes_ofAlternatives _
        · next start hne hstart =>
          rw [takes_rests (shared_prefix_parts _), takes_sequence, inTurn_append, inTurn_singleton]
          exact exists_congr fun x ↦ and_congr_right fun _ ↦ ih _ x k'

/-- A pattern for some alternatives takes what one of them takes. -/
theorem takes_anyOf (ps : List Pattern) : (anyOf ps).Takes k k' ↔ ∃ p ∈ ps, p.Takes k k' :=
  takes_factored _ ps k k'

theorem eq_of_rounds {n : Nat} (h : ∀ k k', p.Takes k k' → k = k') (hk : Rounds p.Takes n k k') :
    k = k' := by
  induction n generalizing k with
  | zero => exact hk
  | succ n ih =>
    obtain ⟨x, hx, hk⟩ := hk
    exact (h k x hx).trans (ih hk)

theorem rounds_iff_of_still {n : Nat} (h : ∀ k k', p.Takes k k' → k = k') (hn : n ≠ 0) :
    Rounds p.Takes n k k' ↔ p.Takes k k' := by
  obtain ⟨n, rfl⟩ := Nat.exists_eq_succ_of_ne_zero hn
  induction n generalizing k with
  | zero => rw [rounds_one]
  | succ n ih =>
    constructor
    · rintro ⟨x, hx, hk⟩
      exact h k x hx ▸ (ih (Nat.succ_ne_zero n)).1 hk
    · intro hk
      obtain rfl := h k k' hk
      exact ⟨k, hk, (ih (Nat.succ_ne_zero n)).2 hk⟩

theorem eq_of_takes_of_isStill (hp : p.isStill = true) : p.Takes k k' → k = k' := by
  induction p generalizing k k' with
  | empty => exact id
  | assertion a => exact And.right
  | literal s => cases hp
  | one s => cases hp
  | group n p ih => exact ih hp
  | seq p q ihp ihq =>
    obtain ⟨hp, hq⟩ := Bool.and_eq_true_iff.1 hp
    rintro ⟨x, hx, hk⟩
    exact (ihp hp hx).trans (ihq hq hk)
  | alt p q ihp ihq =>
    obtain ⟨hp, hq⟩ := Bool.and_eq_true_iff.1 hp
    exact Or.rec (ihp hp) (ihq hq)
  | times p least most isLazy ih =>
    rintro ⟨n, -, hk⟩
    exact eq_of_rounds (fun k k' ↦ ih (Bool.and_eq_true_iff.1 hp).2) hk

theorem takes_times_zero (isLazy : Bool) : (times p 0 (some 0) isLazy).Takes = Eq := by
  funext k k'
  refine propext ⟨?_, fun h ↦ ⟨0, ⟨Nat.le_refl 0, by simp⟩, h⟩⟩
  rintro ⟨n, ⟨-, hn⟩, h⟩
  obtain rfl : n = 0 := by simpa using hn
  exact h

theorem takes_times_one (isLazy : Bool) : (times p 1 (some 1) isLazy).Takes = p.Takes := by
  funext k k'
  refine propext ⟨?_, fun h ↦ ⟨1, ⟨Nat.le_refl 1, by simp⟩, rounds_one ▸ h⟩⟩
  rintro ⟨n, ⟨hleast, hn⟩, h⟩
  obtain rfl : n = 1 := Nat.le_antisymm (by simpa using hn) hleast
  exact rounds_one (R := p.Takes) ▸ h

/-- For what takes no character it only matters whether there is a round. -/
theorem takes_times_of_still {least : Nat} {most : Option Nat} (isLazy : Bool)
    (h : ∀ k k', p.Takes k k' → k = k') :
    (times p (min least 1) (some (min (most.getD 1) 1)) isLazy).Takes =
      (times p least most isLazy).Takes := by
  have hrounds {n m : Nat} (hnm : n = 0 ↔ m = 0) (k k' : Cursor) :
      Rounds p.Takes n k k' → Rounds p.Takes m k k' := by
    by_cases hm : m = 0
    · rw [hm, hnm.2 hm]
      exact id
    · rw [rounds_iff_of_still h hm, rounds_iff_of_still h (mt hnm.1 hm)]
      exact id
  funext k k'
  refine propext ⟨?_, ?_⟩
  · rintro ⟨n, ⟨hleast, hmost⟩, hk⟩
    refine ⟨if n = 0 then 0 else max least 1, ⟨?_, fun m hm ↦ ?_⟩, hrounds ?_ k k' hk⟩
    · split <;> omega
    · cases hm
      have := hmost _ rfl
      simp only [Option.getD_some] at this
      split <;> omega
    · split <;> omega
  · rintro ⟨n, ⟨hleast, hmost⟩, hk⟩
    refine ⟨min n 1, ⟨by omega, fun m hm ↦ ?_⟩, hrounds (by omega) k k' hk⟩
    cases hm
    cases most with
    | none => exact Nat.le_trans (Nat.min_le_right n 1) (Nat.le_max_right _ 1)
    | some m =>
      have := hmost m rfl
      simp only [Option.getD_some]
      omega

theorem takes_repeated {least : Nat} {most : Option Nat} (isLazy : Bool)
    (h : ∀ m ∈ most, least ≤ m) :
    (p.repeated least most isLazy).Takes = (times p least most isLazy).Takes := by
  have hcut {least : Nat} {most : Option Nat} (h : ∀ m ∈ most, least ≤ m) :
      (if most = some 0 then empty
        else if least = 1 ∧ most = some 1 then p
        else times p least most isLazy).Takes = (times p least most isLazy).Takes := by
    split
    · next hmost =>
      obtain rfl := hmost
      obtain rfl := Nat.le_zero.1 (h 0 rfl)
      exact (takes_times_zero isLazy).symm
    · split
      · next hone =>
        obtain ⟨rfl, rfl⟩ := hone
        exact (takes_times_one isLazy).symm
      · rfl
  by_cases hp : p.isStill = true
  · rw [repeated, if_pos hp, if_pos hp, hcut,
      takes_times_of_still isLazy fun _ _ ↦ eq_of_takes_of_isStill hp]
    rintro m hm
    cases hm
    cases most with
    | none => exact Nat.min_le_right _ _
    | some m =>
      have := h m rfl
      simp only [Option.getD_some]
      omega
  · rw [repeated, if_neg hp, if_neg hp, hcut h]

theorem before_eq_none_of_takes (hp : p.isAtStart = true) : p.Takes k k' → k.before = none := by
  induction p generalizing k k' with
  | empty => cases hp
  | literal s => cases hp
  | one s => cases hp
  | assertion a =>
    obtain rfl := of_decide_eq_true hp
    exact fun h ↦ Option.isNone_iff_eq_none.1 h.1
  | group n p ih => exact ih hp
  | seq p q ihp ihq =>
    rintro ⟨x, hx, hk⟩
    rcases Bool.or_eq_true_iff.1 hp with hp | hp
    · exact ihp hp hx
    · obtain ⟨hp, hq⟩ := Bool.and_eq_true_iff.1 hp
      rw [eq_of_takes_of_isStill hp hx]
      exact ihq hq hk
  | alt p q ihp ihq =>
    obtain ⟨hp, hq⟩ := Bool.and_eq_true_iff.1 hp
    exact Or.rec (ihp hp) (ihq hq)
  | times p least most isLazy ih =>
    obtain ⟨hleast, hp⟩ := Bool.and_eq_true_iff.1 hp
    rintro ⟨n, hn, hk⟩
    have hpos : 0 < n := Nat.lt_of_lt_of_le (of_decide_eq_true hleast) hn.1
    obtain ⟨n, rfl⟩ := Nat.exists_eq_succ_of_ne_zero (Nat.ne_of_gt hpos)
    obtain ⟨x, hx, -⟩ := hk
    exact ih hp hx

theorem rest_eq_nil_of_takes (hp : p.isAtEnd = true) : p.Takes k k' → k'.rest = [] := by
  induction p generalizing k k' with
  | empty => cases hp
  | literal s => cases hp
  | one s => cases hp
  | assertion a =>
    obtain rfl := of_decide_eq_true hp
    rintro ⟨h, rfl⟩
    exact List.head?_eq_none_iff.1 (Option.isNone_iff_eq_none.1 h)
  | group n p ih => exact ih hp
  | seq p q ihp ihq =>
    rintro ⟨x, hx, hk⟩
    rcases Bool.or_eq_true_iff.1 hp with hq | hp
    · exact ihq hq hk
    · obtain ⟨hq, hp⟩ := Bool.and_eq_true_iff.1 hp
      rw [← eq_of_takes_of_isStill hq hk]
      exact ihp hp hx
  | alt p q ihp ihq =>
    obtain ⟨hp, hq⟩ := Bool.and_eq_true_iff.1 hp
    exact Or.rec (ihp hp) (ihq hq)
  | times p least most isLazy ih =>
    obtain ⟨hleast, hp⟩ := Bool.and_eq_true_iff.1 hp
    rintro ⟨n, hn, hk⟩
    have hpos : 0 < n := Nat.lt_of_lt_of_le (of_decide_eq_true hleast) hn.1
    obtain ⟨n, rfl⟩ := Nat.exists_eq_succ_of_ne_zero (Nat.ne_of_gt hpos)
    rw [rounds_succ] at hk
    obtain ⟨x, -, hx⟩ := hk
    exact ih hp hx

end Pattern

end LiteralPatch
