import LiteralPatch.Text.CharSet

namespace LiteralPatch

namespace CharSet

def Covers (rs : List (Nat × Nat)) (n : Nat) : Prop := ∃ r ∈ rs, r.1 ≤ n ∧ n ≤ r.2

variable {rs done : List (Nat × Nat)} {r : Nat × Nat} {n start : Nat} {s t : CharSet} {c : Char}

theorem mem_iff_covers : s.mem c = true ↔ Covers s.ranges c.toNat := by
  simp [mem, Covers]

theorem covers_cons : Covers (r :: rs) n ↔ (r.1 ≤ n ∧ n ≤ r.2) ∨ Covers rs n := by
  simp [Covers]

theorem covers_append {rs' : List (Nat × Nat)} :
    Covers (rs ++ rs') n ↔ Covers rs n ∨ Covers rs' n := by
  simp [Covers, or_and_right, exists_or]

theorem not_covers_nil : ¬Covers [] n := by simp [Covers]

theorem covers_singleton {m : Nat} : Covers [(m, m)] n ↔ n = m := by
  rw [covers_cons, Nat.le_antisymm_iff, and_comm]
  simp only [not_covers_nil, or_false]

theorem toNat_valid (c : Char) : c.toNat < 0xd800 ∨ 0xdfff < c.toNat ∧ c.toNat < 0x110000 := c.valid

theorem covers_scalars : Covers (scalars r) c.toNat ↔ r.1 ≤ c.toNat ∧ c.toNat ≤ r.2 := by
  obtain ⟨first, last⟩ := r
  have hc := toNat_valid c
  rw [scalars, covers_append]
  split <;> split <;> simp [Covers] <;> omega

theorem covers_flatMap {α : Type} {f : α → List (Nat × Nat)} {l : List α} :
    Covers (l.flatMap f) n ↔ ∃ a ∈ l, Covers (f a) n := by
  simp only [Covers, List.mem_flatMap]
  constructor
  · rintro ⟨r, ⟨a, ha, hr⟩, hn⟩
    exact ⟨a, ha, r, hr, hn⟩
  · rintro ⟨a, ha, r, hr, hn⟩
    exact ⟨r, ⟨a, ha, hr⟩, hn⟩

theorem covers_flatMap_scalars : Covers (rs.flatMap scalars) c.toNat ↔ Covers rs c.toNat := by
  simp only [covers_flatMap, covers_scalars]
  rfl

theorem covers_joined (hrs : rs.Pairwise fun r r' ↦ r.1 ≤ r'.1)
    (hd : ∀ d ∈ done.head?, ∀ r ∈ rs, d.1 ≤ r.1) :
    Covers (joined done rs) n ↔ Covers done n ∨ Covers rs n := by
  induction rs generalizing done with
  | nil => simp [joined, Covers]
  | cons x rs ih =>
    obtain ⟨c, d⟩ := x
    obtain ⟨hx, hrs⟩ := List.pairwise_cons.1 hrs
    cases done with
    | nil =>
      rw [joined, ih hrs (le_of_mem_head? hx), covers_cons, covers_cons]
      simp only [not_covers_nil, or_false, false_or]
    | cons y done =>
      obtain ⟨a, b⟩ := y
      have hac : a ≤ c := hd (a, b) rfl _ List.mem_cons_self
      have hax : ∀ r ∈ rs, (a, max b d).1 ≤ r.1 := fun r hr ↦ Nat.le_trans hac (hx r hr)
      rw [joined]
      split
      · next hle =>
        have hmax : a ≤ n ∧ n ≤ max b d ↔ (a ≤ n ∧ n ≤ b) ∨ (c ≤ n ∧ n ≤ d) := by omega
        rw [ih hrs (le_of_mem_head? hax), covers_cons, covers_cons, covers_cons, hmax]
        simp only [or_assoc, or_left_comm]
      · rw [ih hrs (le_of_mem_head? hx), covers_cons, covers_cons, covers_cons]
        simp only [or_assoc, or_left_comm]

theorem mem_ofRanges : (ofRanges rs).mem c = true ↔ Covers rs c.toNat := by
  have hsame : Covers ((rs.flatMap scalars).foldr placed []) c.toNat ↔
      Covers (rs.flatMap scalars) c.toNat := by
    simp only [Covers, mem_foldr_placed]
  rw [mem_iff_covers, ofRanges, covers_joined (pairwise_foldr_placed _) (by simp), hsame,
    covers_flatMap_scalars]
  simp only [not_covers_nil, false_or]

theorem covers_gaps (h : Ascending rs) (hs : ∀ r ∈ rs, start ≤ r.1) (hn : n ≤ 0x10ffff) :
    Covers (gaps start rs) n ↔ start ≤ n ∧ ¬Covers rs n := by
  induction rs generalizing start with
  | nil => simpa [gaps, Covers] using fun _ ↦ hn
  | cons x rs ih =>
    obtain ⟨first, last⟩ := x
    obtain ⟨hle, hrs⟩ := List.forall_mem_cons.1 h.le
    obtain ⟨hx, hapart⟩ := List.pairwise_cons.1 h.apart
    have hfirst : start ≤ first := hs _ List.mem_cons_self
    have ih := ih ⟨hrs, hapart⟩ fun r hr ↦ Nat.le_of_lt (hx r hr)
    rw [gaps, covers_cons]
    by_cases hc : Covers rs n
    · have hlast : last + 1 < n := by
        obtain ⟨r, hr, hn, -⟩ := hc
        exact Nat.lt_of_lt_of_le (hx r hr) hn
      simp only [hc, not_true_eq_false, or_true, and_false, iff_false] at ih ⊢
      split
      · rw [covers_cons, not_or]
        exact ⟨by omega, ih⟩
      · exact ih
    · simp only [hc, or_false, not_false_eq_true, and_true] at ih ⊢
      split
      · rw [covers_cons, ih]
        omega
      · rw [ih]
        omega

theorem mem_compl : s.compl.mem c = true ↔ ¬s.mem c = true := by
  have hc : c.toNat ≤ 0x10ffff := by
    have := toNat_valid c
    omega
  rw [compl, mem_ofRanges, covers_gaps s.ascending (fun _ _ ↦ Nat.zero_le _) hc, mem_iff_covers]
  simp only [Nat.zero_le, true_and]

theorem toNat_inj {d : Char} : c.toNat = d.toNat ↔ c = d := by
  refine ⟨fun h ↦ ?_, congrArg Char.toNat⟩
  rw [← Char.ofNat_toNat c, h, Char.ofNat_toNat]

theorem toNat_ofNat (h : n.isValidChar) : (Char.ofNat n).toNat = n := by
  rw [Char.ofNat, dif_pos h]
  rfl

theorem mem_one {d : Char} : (one d).mem c = true ↔ c = d := by
  rw [one, mem_ofRanges, covers_singleton, toNat_inj]

theorem mem_union : (union s t).mem c = true ↔ s.mem c = true ∨ t.mem c = true := by
  rw [union, mem_ofRanges, covers_append, mem_iff_covers, mem_iff_covers]

theorem mem_unions {ss : List CharSet} :
    (unions ss).mem c = true ↔ ∃ s ∈ ss, s.mem c = true := by
  rw [unions, mem_ofRanges, covers_flatMap]
  simp only [mem_iff_covers]

theorem mem_inter : (inter s t).mem c = true ↔ s.mem c = true ∧ t.mem c = true := by
  rw [inter, mem_compl, mem_union, mem_compl, mem_compl, not_or, Classical.not_not,
    Classical.not_not]

theorem mem_diff : (diff s t).mem c = true ↔ s.mem c = true ∧ ¬t.mem c = true := by
  rw [diff, mem_inter, mem_compl]

theorem mem_symmDiff : (symmDiff s t).mem c = true ↔ ¬(s.mem c = true ↔ t.mem c = true) := by
  rw [symmDiff, mem_union, mem_diff, mem_diff]
  by_cases s.mem c = true <;> by_cases t.mem c = true <;> simp_all

theorem Scalar.isValidChar (h : Scalar r) (hn : r.1 ≤ n ∧ n ≤ r.2) : n.isValidChar := by
  simp only [Scalar, Nat.isValidChar] at h ⊢
  omega

theorem mem_iff_of_only? {d : Char} (h : s.only? = some d) : s.mem c = true ↔ c = d := by
  rw [only?] at h
  split at h
  · next first last hr =>
    split at h
    · next heq =>
      have hfirst : first.isValidChar := (s.scalar _ (hr ▸ List.mem_singleton_self _)).isValidChar
        ⟨Nat.le_refl _, Nat.le_of_eq heq⟩
      obtain rfl := Option.some.inj h
      rw [mem_iff_covers, hr, ← heq, covers_singleton, ← toNat_inj, toNat_ofNat hfirst]
    · cases h
  · cases h

end CharSet

end LiteralPatch
