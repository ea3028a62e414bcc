import LiteralPatch.Proofs.CharSet
import LiteralPatch.Text.Category
import Mathlib.Data.List.Chain
import Mathlib.Logic.ExistsUnique

namespace LiteralPatch

namespace Category

variable {α : Type} {n m : Nat} {g h : Category} {c : Char}

/-- A range that is not empty, and ends before the next one begins. -/
def Before (r r' : Nat × Nat × α) : Prop := r.1 ≤ r.2.1 ∧ r.2.1 < r'.1

instance (r r' : Nat × Nat × α) : Decidable (Before r r') := inferInstanceAs (Decidable (_ ∧ _))

instance : IsTrans (Nat × Nat × α) Before where
  trans _ _ _ h h' := ⟨h.1, h.2.trans (h'.1.trans_lt h'.2)⟩

def Within (n : Nat) (r : Nat × Nat × α) : Prop := r.1 ≤ n ∧ n ≤ r.2.1

theorem eq_of_within {l : List (Nat × Nat × α)} (hl : l.IsChain Before) {r r' : Nat × Nat × α}
    (hr : r ∈ l) (hr' : r' ∈ l) (hn : Within n r) (hn' : Within n r') : r = r' := by
  by_contra hne
  let Apart (r r' : Nat × Nat × α) : Prop := Before r r' ∨ Before r' r
  have : Std.Symm Apart := ⟨fun _ _ ↦ Or.symm⟩
  have hpair : l.Pairwise Apart := (List.isChain_iff_pairwise.1 hl).imp .inl
  rcases hpair.forall hr hr' hne with h | h
  · exact absurd (hn'.1.trans hn.2) (Nat.not_le_of_lt h.2)
  · exact absurd (hn.1.trans hn'.2) (Nat.not_le_of_lt h.2)

theorem find?_eq_some {l : List (Nat × Nat × α)} (hl : l.IsChain Before) {r : Nat × Nat × α}
    (hr : r ∈ l) (hn : Within n r) :
    (l.find? fun (first, last, _) ↦ first ≤ n && n ≤ last) = some r := by
  cases hfind : l.find? fun (first, last, _) ↦ first ≤ n && n ≤ last with
  | none =>
    have hnot := List.find?_eq_none.1 hfind r hr
    simp [hn.1, hn.2] at hnot
  | some r' =>
    have hn' := List.find?_some hfind
    simp only [Bool.and_eq_true, decide_eq_true_eq] at hn'
    exact congrArg some (eq_of_within hl (List.mem_of_find?_eq_some hfind) hr hn' hn)

/-- The tables with the code points from which and up to which each one is looked at. -/
def parts : List (Nat × Nat × List (Nat × Nat × Category)) :=
  [(0, 0xb00, rangesFrom0), (0xb00, 0x1700, rangesFromB00), (0x1700, 0x2190, rangesFrom1700),
    (0x2190, 0x3000, rangesFrom2190), (0x3000, 0xfb00, rangesFrom3000),
    (0xfb00, 0x11000, rangesFromFB00), (0x11000, 0x11c00, rangesFrom11000),
    (0x11c00, 0x1d000, rangesFrom11C00), (0x1d000, 0x110000, rangesFrom1D000)]

theorem isChain_of_mem_parts : ∀ p ∈ parts, p.2.2.IsChain Before := by
  decide +kernel

theorem within_of_mem_parts : ∀ p ∈ parts, ∀ r ∈ p.2.2, p.1 ≤ r.1 ∧ r.2.1 < p.2.1 := by
  decide +kernel

theorem isChain_alternating : alternating.IsChain Before := by
  decide +kernel

theorem lt_of_mem_alternating : ∀ a ∈ alternating, a.1 < a.2.1 := by
  decide +kernel

theorem apart_of_mem_alternating : ∀ a ∈ alternating, ∀ p ∈ parts,
    a.2.1 < p.1 ∨ p.2.1 ≤ a.1 ∨ ∀ r ∈ p.2.2, a.2.1 < r.1 ∨ r.2.1 < a.1 := by
  decide +kernel

theorem rangesNear_eq {p : Nat × Nat × List (Nat × Nat × Category)} (hp : p ∈ parts)
    (hlo : p.1 ≤ n) (hhi : n < p.2.1) : rangesNear n = p.2.2 := by
  simp only [parts, List.mem_cons, List.not_mem_nil, or_false] at hp
  rcases hp with rfl | rfl | rfl | rfl | rfl | rfl | rfl | rfl | rfl <;>
  · unfold rangesNear
    grind

theorem exists_part {r : Nat × Nat × Category} (hr : r ∈ ranges) (hn : Within n r) :
    ∃ p ∈ parts, r ∈ p.2.2 ∧ p.2.2 = rangesNear n := by
  have hflat : ranges = parts.flatMap fun p ↦ p.2.2 := rfl
  rw [hflat] at hr
  obtain ⟨p, hp, hr⟩ := List.mem_flatMap.1 hr
  obtain ⟨hlo, hhi⟩ := within_of_mem_parts p hp r hr
  exact ⟨p, hp, hr, (rangesNear_eq hp (hlo.trans hn.1) (hn.2.trans_lt hhi)).symm⟩

def turn (a : Nat × Nat × Bool) (n : Nat) : Category :=
  if (n - a.1) % 2 = 0 ↔ a.2.2 then lu else ll

/-- A code point has a category by a range of its own or by one in which letters take turns. -/
inductive Has (n : Nat) : Category → Prop
  | plain {r : Nat × Nat × Category} : r ∈ ranges → Within n r → Has n r.2.2
  | turn {a : Nat × Nat × Bool} : a ∈ alternating → Within n a → Has n (turn a n)

theorem has_iff : Has n g ↔ (∃ r ∈ ranges, Within n r ∧ r.2.2 = g) ∨
    ∃ a ∈ alternating, Within n a ∧ turn a n = g := by
  constructor
  · rintro (⟨hr, hn⟩ | ⟨ha, hn⟩)
    · exact .inl ⟨_, hr, hn, rfl⟩
    · exact .inr ⟨_, ha, hn, rfl⟩
  · rintro (⟨r, hr, hn, rfl⟩ | ⟨a, ha, hn, rfl⟩)
    · exact .plain hr hn
    · exact .turn ha hn

theorem turn_eq (a : Nat × Nat × Bool) (n : Nat) : turn a n = lu ∨ turn a n = ll := by
  unfold turn
  split
  · exact .inl rfl
  · exact .inr rfl

theorem not_within_of_mem_alternating {a : Nat × Nat × Bool} {r : Nat × Nat × Category}
    (ha : a ∈ alternating) (hna : Within n a) (hr : r ∈ ranges) : ¬Within n r := by
  intro hn
  obtain ⟨p, hp, hrp, -⟩ := exists_part hr hn
  obtain ⟨hlo, hhi⟩ := within_of_mem_parts p hp r hrp
  obtain ⟨h₁, h₂⟩ := hna
  obtain ⟨h₃, h₄⟩ := hn
  rcases apart_of_mem_alternating a ha p hp with h | h | h
  · omega
  · omega
  · have := h r hrp
    omega

theorem Has.unique (hg : Has n g) (hh : Has n h) : g = h := by
  cases hg with
  | @plain r hr hn =>
    cases hh with
    | @plain r' hr' hn' =>
      obtain ⟨p, hp, hrp, hpn⟩ := exists_part hr hn
      obtain ⟨p', -, hrp', hpn'⟩ := exists_part hr' hn'
      rw [eq_of_within (isChain_of_mem_parts p hp) hrp (hpn.trans hpn'.symm ▸ hrp') hn hn']
    | turn ha hna => exact (not_within_of_mem_alternating ha hna hr hn).elim
  | @turn a ha hn =>
    cases hh with
    | plain hr hnr => exact (not_within_of_mem_alternating ha hn hr hnr).elim
    | @turn a' ha' hn' => rw [eq_of_within isChain_alternating ha ha' hn hn']

end Category

namespace CharSet

open Category

variable {n : Nat} {g : Category} {c : Char}

theorem covers_everyOther {first last : Nat} (h : first ≤ last) :
    Covers (everyOther first last) n ↔ first ≤ n ∧ n ≤ last ∧ (n - first) % 2 = 0 := by
  simp only [everyOther, Covers, List.mem_map, List.mem_range, exists_exists_and_eq_and]
  constructor
  · rintro ⟨i, hi, hn⟩
    omega
  · rintro ⟨hlo, hhi, hn⟩
    exact ⟨(n - first) / 2, by omega, by omega⟩

theorem covers_turns {upper : Bool} : Covers (turns upper) n ↔
    ∃ a ∈ alternating, Within n a ∧ turn a n = if upper then .lu else .ll := by
  rw [turns, covers_flatMap]
  refine exists_congr fun a ↦ and_congr_right fun ha ↦ ?_
  have hlt := lt_of_mem_alternating a ha
  obtain ⟨first, last, capitalFirst⟩ := a
  have hstart : (if capitalFirst = upper then first else first + 1) ≤ last := by
    simp only at hlt
    split <;> omega
  rw [covers_everyOther hstart]
  cases capitalFirst <;> cases upper <;> simp [Within, turn] <;> omega

theorem covers_inCategory : Covers (inCategory g) n ↔ Has n g := by
  have hplain : Covers (Category.ranges.filterMap fun r ↦
      if r.2.2 = g then some (r.1, r.2.1) else none) n ↔
        ∃ r ∈ Category.ranges, Within n r ∧ r.2.2 = g := by
    simp only [Covers, List.mem_filterMap, Option.ite_none_right_eq_some, Option.some.injEq]
    constructor
    · rintro ⟨_, ⟨r, hr, hg, rfl⟩, hn⟩
      exact ⟨r, hr, hn, hg⟩
    · rintro ⟨r, hr, hn, hg⟩
      exact ⟨_, ⟨r, hr, hg, rfl⟩, hn⟩
  rw [has_iff, or_comm]
  unfold inCategory
  split
  · exact covers_append.trans (or_congr covers_turns hplain)
  · exact covers_append.trans (or_congr covers_turns hplain)
  · next hlu hll =>
    have hturn : ¬∃ a ∈ alternating, Within n a ∧ turn a n = g := by
      rintro ⟨a, -, -, rfl⟩
      exact (turn_eq a n).elim hlu hll
    exact hplain.trans (or_iff_right hturn).symm

theorem mem_assigned : assigned.mem c = true ↔ ∃ g, Has c.toNat g := by
  rw [assigned, mem_ofRanges, covers_append]
  simp only [has_iff, Covers, List.mem_map]
  constructor
  · rintro (⟨_, ⟨r, hr, rfl⟩, hn⟩ | ⟨_, ⟨a, ha, rfl⟩, hn⟩)
    · exact ⟨_, .inl ⟨r, hr, hn, rfl⟩⟩
    · exact ⟨_, .inr ⟨a, ha, hn, rfl⟩⟩
  · rintro ⟨g, ⟨r, hr, hn, -⟩ | ⟨a, ha, hn, -⟩⟩
    · exact .inl ⟨_, ⟨r, hr, rfl⟩, hn⟩
    · exact .inr ⟨_, ⟨a, ha, rfl⟩, hn⟩

theorem mem_ofCategories_singleton : (ofCategories [g]).mem c = true ↔
    Has c.toNat g ∨ (g = .cn ∧ ∀ h, ¬Has c.toNat h) := by
  have hknown : (ofRanges ([g].flatMap inCategory)).mem c = true ↔ Has c.toNat g := by
    rw [mem_ofRanges, List.flatMap_singleton, covers_inCategory]
  rw [ofCategories]
  split
  · next hcn =>
    obtain rfl : .cn = g := by simpa using hcn
    rw [mem_union, hknown, mem_compl, mem_assigned, not_exists]
    simp only [true_and]
  · next hcn =>
    have hne : g ≠ .cn := by rintro rfl; simp at hcn
    rw [hknown]
    simp [hne]

/-- Every character has one category. -/
theorem existsUnique_mem_ofCategories (c : Char) : ∃! g, (ofCategories [g]).mem c = true := by
  simp only [mem_ofCategories_singleton]
  by_cases hhas : ∃ g, Has c.toNat g
  · obtain ⟨g, hg⟩ := hhas
    refine ⟨g, .inl hg, ?_⟩
    rintro g' (hg' | ⟨-, hnone⟩)
    · exact hg'.unique hg
    · exact (hnone g hg).elim
  · rw [not_exists] at hhas
    refine ⟨.cn, .inr ⟨rfl, hhas⟩, ?_⟩
    rintro g (hg | ⟨rfl, -⟩)
    · exact (hhas g hg).elim
    · rfl

end CharSet

namespace Category

/-- What one edition assigns keeps its category in the next one. -/
theorem of_eq_of_mem (h : (CharSet.ofCategories [g]).mem c = true) (hg : g ≠ cn) : of c = g := by
  rcases CharSet.mem_ofCategories_singleton.1 h with hhas | ⟨rfl, -⟩
  · cases hhas with
    | @plain r hr hn =>
      obtain ⟨p, hp, hrp, hpn⟩ := exists_part hr hn
      have hat : at? c.toNat (rangesNear c.toNat) = some r.2.2 := by
        rw [at?, ← hpn, find?_eq_some (isChain_of_mem_parts p hp) hrp hn, Option.map_some]
      unfold of
      dsimp only
      split
      · next hfind =>
        have hwithin := List.find?_some hfind
        simp only [Bool.and_eq_true, decide_eq_true_eq] at hwithin
        have ha := List.mem_of_find?_eq_some hfind
        exact (not_within_of_mem_alternating ha hwithin hr hn).elim
      · rw [hat]
        rfl
    | @turn a ha hn =>
      simp only [of, find?_eq_some isChain_alternating ha hn]
      rfl
  · exact (hg rfl).elim

end Category

end LiteralPatch
