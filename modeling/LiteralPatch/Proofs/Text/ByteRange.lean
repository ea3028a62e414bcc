import Mathlib.Data.List.Forall2
import LiteralPatch.Proofs.CharSet
import LiteralPatch.Text.ByteRange

namespace LiteralPatch

namespace CharSet

variable {n k m first last steps : Nat} {r : Nat × Nat}

/-- A range is inside one block of a size, or it is made of whole ones. -/
def Aligned (n first last : Nat) : Prop :=
  first / n = last / n ∨ (first % n = 0 ∧ last % n = n - 1)

/-- All encodings of a range have one length. -/
structure SameLength (first last : Nat) : Prop where
  one : ¬(first < 0x80 ∧ 0x80 ≤ last)
  two : ¬(first < 0x800 ∧ 0x800 ≤ last)
  three : ¬(first < 0x10000 ∧ 0x10000 ≤ last)

def blockSizes : List Nat := [0x40, 0x1000, 0x40000]

theorem mem_blockSizes : n ∈ blockSizes ↔ n = 0x40 ∨ n = 0x1000 ∨ n = 0x40000 := by
  simp [blockSizes]

def blockCut? (first last n : Nat) : Option Nat :=
  if first / n = last / n then none
  else if first % n ≠ 0 then some ((first / n + 1) * n)
  else if last % n ≠ n - 1 then some (last / n * n)
  else none

theorem blockCut?_eq_none_iff : blockCut? first last n = none ↔ Aligned n first last := by
  unfold blockCut? Aligned
  split
  · next h => simp [h]
  · split
    · next h h' => simp [h, h']
    · split
      · next h h' h'' => simp [h, h'']
      · next h h' h'' => simp [Classical.not_not.1 h', Classical.not_not.1 h'']

theorem cut?_of_sameLength (h : SameLength first last) : cut? first last =
    if last < 0x80 then none else blockSizes.findSome? (blockCut? first last) := by
  have hfind : ([0x80, 0x800, 0x10000].find? fun n ↦ first < n && n ≤ last) = none := by
    have h₁ := h.one
    have h₂ := h.two
    have h₃ := h.three
    simp only [List.find?_eq_none, List.mem_cons, List.not_mem_nil, or_false, Bool.and_eq_true,
      decide_eq_true_eq]
    rintro n (rfl | rfl | rfl) <;> assumption
  rw [cut?, hfind]
  rfl

theorem cut?_eq_none (h : SameLength first last)
    (hall : ∀ k ∈ blockSizes, Aligned k first last) : cut? first last = none := by
  rw [cut?_of_sameLength h]
  split
  · rfl
  · exact List.findSome?_eq_none_iff.2 fun k hk ↦ blockCut?_eq_none_iff.2 (hall k hk)

theorem cut?_eq_blockCut? (h : SameLength first last) (hlast : 0x80 ≤ last) (hn : n ∈ blockSizes)
    (hbelow : ∀ k ∈ blockSizes, k < n → Aligned k first last) (hnot : ¬Aligned n first last) :
    cut? first last = blockCut? first last n := by
  have hsome : (blockCut? first last n).isSome = true :=
    Option.isSome_iff_ne_none.2 (mt blockCut?_eq_none_iff.1 hnot)
  have hnone (k : Nat) (hk : k ∈ blockSizes) (hlt : k < n) : blockCut? first last k = none :=
    blockCut?_eq_none_iff.2 (hbelow k hk hlt)
  rw [cut?_of_sameLength h, if_neg (Nat.not_lt.2 hlast)]
  obtain ⟨m, hm⟩ := Option.isSome_iff_exists.1 hsome
  rcases mem_blockSizes.1 hn with rfl | rfl | rfl
  · simp [blockSizes, hm]
  · simp [blockSizes, hm, hnone 0x40 (by simp [blockSizes])]
  · simp [blockSizes, hm, hnone 0x40 (by simp [blockSizes]), hnone 0x1000 (by simp [blockSizes])]

theorem front_cut (hn : n ∈ blockSizes) (hle : first ≤ last) (hne : first / n ≠ last / n)
    (h0 : first % n ≠ 0) :
    let m := (first / n + 1) * n
    first < m ∧ m ≤ last ∧ m % n = 0 ∧
      (∀ k ∈ blockSizes, (k < n → Aligned k first last) → Aligned k first (m - 1)) ∧
      ∀ k ∈ blockSizes, k < n → Aligned k first last → Aligned k m last := by
  rcases mem_blockSizes.1 hn with rfl | rfl | rfl <;>
  · refine ⟨by omega, by omega, by omega, fun k hk h ↦ ?_, fun k hk hlt h ↦ ?_⟩ <;>
    · rcases mem_blockSizes.1 hk with rfl | rfl | rfl <;>
      · simp only [Aligned] at h ⊢
        omega

theorem back_cut (hn : n ∈ blockSizes) (hle : first ≤ last) (hne : first / n ≠ last / n)
    (h0 : first % n = 0) (h1 : last % n ≠ n - 1) :
    let m := last / n * n
    first < m ∧ m ≤ last ∧
      (∀ k ∈ blockSizes, k ≤ n → (k < n → Aligned k first last) → Aligned k first (m - 1)) ∧
      ∀ k ∈ blockSizes, (k < n → Aligned k first last) → Aligned k m last := by
  rcases mem_blockSizes.1 hn with rfl | rfl | rfl <;>
  · refine ⟨by omega, by omega, fun k hk hkn h ↦ ?_, fun k hk h ↦ ?_⟩ <;>
    · rcases mem_blockSizes.1 hk with rfl | rfl | rfl <;>
      · simp only [Aligned] at h ⊢
        omega

def Settled (steps : Nat) (r : Nat × Nat) : Prop := ∀ p ∈ pieces steps r, cut? p.1 p.2 = none

theorem settled_of_cut?_eq_none (h : cut? first last = none) (steps : Nat) :
    Settled steps (first, last) := by
  intro p hp
  cases steps with
  | zero =>
    obtain rfl := List.mem_singleton.1 hp
    exact h
  | succ steps =>
    rw [pieces, h] at hp
    obtain rfl := List.mem_singleton.1 hp
    exact h

theorem Settled.of_cut? (h : cut? first last = some m) (hleft : Settled steps (first, m - 1))
    (hright : Settled steps (m, last)) : Settled (steps + 1) (first, last) := by
  intro p hp
  rw [pieces, h] at hp
  exact (List.mem_append.1 hp).elim (hleft p) (hright p)

theorem SameLength.mono (h : SameLength first last) {first' last' : Nat} (hf : first ≤ first')
    (hl : last' ≤ last) : SameLength first' last' where
  one h' := h.one ⟨by omega, by omega⟩
  two h' := h.two ⟨by omega, by omega⟩
  three h' := h.three ⟨by omega, by omega⟩

/-- Ranges that are whole at all block sizes up to one are settled after some steps. -/
def SettlesFrom (steps n : Nat) : Prop := ∀ first last steps', first ≤ last →
  SameLength first last → 0x80 ≤ first → (∀ k ∈ blockSizes, k ≤ n → Aligned k first last) →
    steps ≤ steps' → Settled steps' (first, last)

theorem SettlesFrom.of_front (hs : SettlesFrom steps n) (hn : n ∈ blockSizes) (hle : first ≤ last)
    (h : SameLength first last) (hfirst : 0x80 ≤ first)
    (hbelow : ∀ k ∈ blockSizes, k < n → Aligned k first last) (h0 : first % n = 0) {steps' : Nat}
    (hsteps : steps ≤ steps') : Settled (steps' + 1) (first, last) := by
  by_cases hal : Aligned n first last
  · refine hs first last _ hle h hfirst (fun k hk hkn ↦ ?_) (by omega)
    rcases Nat.lt_or_eq_of_le hkn with hlt | rfl
    · exact hbelow k hk hlt
    · exact hal
  · have hne : first / n ≠ last / n := fun heq ↦ hal (.inl heq)
    have h1 : last % n ≠ n - 1 := fun heq ↦ hal (.inr ⟨h0, heq⟩)
    have hcut := cut?_eq_blockCut? h (Nat.le_trans hfirst hle) hn hbelow hal
    rw [blockCut?, if_neg hne, if_neg (Classical.not_not.2 h0), if_pos h1] at hcut
    obtain ⟨hlt, hm, hleft, hright⟩ := back_cut hn hle hne h0 h1
    refine .of_cut? hcut ?_ (settled_of_cut?_eq_none (cut?_eq_none ?_ fun k hk ↦ ?_) _)
    · exact hs _ _ _ (by omega) (h.mono (Nat.le_refl _) (by omega)) hfirst
        (fun k hk hkn ↦ hleft k hk hkn (hbelow k hk)) hsteps
    · exact h.mono (Nat.le_of_lt hlt) (Nat.le_refl _)
    · exact hright k hk (hbelow k hk)

theorem SettlesFrom.step (hs : SettlesFrom steps n) (hn : n ∈ blockSizes)
    (hk : ∀ k ∈ blockSizes, k < n → k ≤ m) : SettlesFrom (steps + 2) m := by
  intro first last steps' hle h hfirst hbelow hsteps
  obtain ⟨steps', rfl⟩ := Nat.exists_eq_add_of_le' (Nat.le_trans (Nat.le_add_left 2 steps) hsteps)
  have hbelow (k : Nat) (hkb : k ∈ blockSizes) (hlt : k < n) : Aligned k first last :=
    hbelow k hkb (hk k hkb hlt)
  by_cases h0 : first % n = 0
  · exact hs.of_front hn hle h hfirst hbelow h0 (by omega)
  by_cases hne : first / n = last / n
  · refine hs first last _ hle h hfirst (fun k hkb hkn ↦ ?_) (by omega)
    rcases Nat.lt_or_eq_of_le hkn with hlt | rfl
    · exact hbelow k hkb hlt
    · exact .inl hne
  · have hal : ¬Aligned n first last := fun hal ↦ hal.elim hne fun hal ↦ h0 hal.1
    have hcut := cut?_eq_blockCut? h (Nat.le_trans hfirst hle) hn hbelow hal
    rw [blockCut?, if_neg hne, if_pos h0] at hcut
    obtain ⟨hlt, hm, hm0, hleft, hright⟩ := front_cut hn hle hne h0
    refine .of_cut? hcut (settled_of_cut?_eq_none (cut?_eq_none ?_ fun k hkb ↦ ?_) _) ?_
    · exact h.mono (Nat.le_refl _) (by omega)
    · exact hleft k hkb (hbelow k hkb)
    · exact hs.of_front hn hm (h.mono (Nat.le_of_lt hlt) (Nat.le_refl _)) (by omega)
        (fun k hkb hlt ↦ hright k hkb hlt (hbelow k hkb hlt)) hm0 (by omega)

theorem settlesFrom_zero : SettlesFrom 6 0 := by
  -- the cuts for one size of blocks leave the smaller ones whole, so each size takes two at most
  have h₃ : SettlesFrom 0 0x40000 := fun first last _ _ h _ hall _ ↦
    settled_of_cut?_eq_none (cut?_eq_none h fun k hk ↦ hall k hk (by
      rcases mem_blockSizes.1 hk with rfl | rfl | rfl <;> omega)) _
  have h₂ : SettlesFrom 2 0x1000 := h₃.step (by simp [blockSizes]) fun k hk hlt ↦ by
    rcases mem_blockSizes.1 hk with rfl | rfl | rfl <;> omega
  have h₁ : SettlesFrom 4 0x40 := h₂.step (by simp [blockSizes]) fun k hk hlt ↦ by
    rcases mem_blockSizes.1 hk with rfl | rfl | rfl <;> omega
  exact h₁.step (by simp [blockSizes]) fun k hk hlt ↦ by
    rcases mem_blockSizes.1 hk with rfl | rfl | rfl <;> omega

theorem settled_of_sameLength (hle : first ≤ last) (h : SameLength first last) (hs : 6 ≤ steps) :
    Settled steps (first, last) := by
  by_cases hlast : last < 0x80
  · exact settled_of_cut?_eq_none (by rw [cut?_of_sameLength h, if_pos hlast]) _
  · have hfirst : 0x80 ≤ first := by
      have := h.one
      omega
    refine settlesFrom_zero first last _ hle h hfirst (fun k hk hk0 ↦ ?_) hs
    rcases mem_blockSizes.1 hk with rfl | rfl | rfl <;> omega

theorem cut?_of_find? (h : ([0x80, 0x800, 0x10000].find? fun n ↦ first < n && n ≤ last) = some m) :
    cut? first last = some m := by
  rw [cut?, h]

theorem settled_of_le_three (hle : first ≤ last) (hfirst : 0x800 ≤ first) :
    Settled (steps + 7) (first, last) := by
  by_cases hedge : first < 0x10000 ∧ 0x10000 ≤ last
  · have hcut : cut? first last = some 0x10000 := cut?_of_find? (by
      simp [hedge, Nat.not_lt.2 hfirst, show ¬first < 0x80 by omega])
    refine .of_cut? hcut (settled_of_sameLength (by omega) ⟨?_, ?_, ?_⟩ (by omega))
      (settled_of_sameLength hedge.2 ⟨?_, ?_, ?_⟩ (by omega)) <;> omega
  · exact settled_of_sameLength hle ⟨by omega, by omega, hedge⟩ (by omega)

theorem settled_of_le_two (hle : first ≤ last) (hfirst : 0x80 ≤ first) :
    Settled (steps + 8) (first, last) := by
  by_cases hedge : first < 0x800 ∧ 0x800 ≤ last
  · have hcut : cut? first last = some 0x800 := cut?_of_find? (by
      simp [hedge, Nat.not_lt.2 hfirst])
    exact .of_cut? hcut (settled_of_sameLength (by omega) ⟨by omega, by omega, by omega⟩ (by omega))
      (settled_of_le_three hedge.2 (Nat.le_refl _))
  · by_cases h : 0x800 ≤ first
    · exact settled_of_le_three hle h
    · exact settled_of_sameLength hle ⟨by omega, hedge, by omega⟩ (by omega)

theorem settled_sixteen (hle : first ≤ last) : Settled 16 (first, last) := by
  by_cases hedge : first < 0x80 ∧ 0x80 ≤ last
  · have hcut : cut? first last = some 0x80 := cut?_of_find? (by simp [hedge])
    exact .of_cut? hcut (settled_of_sameLength (by omega) ⟨by omega, by omega, by omega⟩ (by omega))
      (settled_of_le_two hedge.2 (Nat.le_refl _))
  · by_cases h : 0x80 ≤ first
    · exact settled_of_le_two hle h
    · exact settled_of_sameLength hle ⟨hedge, by omega, by omega⟩ (by omega)

theorem blockCut?_bounds (hn : n ∈ blockSizes) (hle : first ≤ last)
    (h : blockCut? first last n = some m) : first < m ∧ m ≤ last := by
  rw [blockCut?] at h
  split at h
  · cases h
  next hne =>
    split at h
    · next h0 =>
      obtain rfl := Option.some.inj h
      obtain ⟨hlt, hm, -⟩ := front_cut hn hle hne h0
      exact ⟨hlt, hm⟩
    · next h0 =>
      split at h
      · next h1 =>
        obtain rfl := Option.some.inj h
        obtain ⟨hlt, hm, -⟩ := back_cut hn hle hne (Classical.not_not.1 h0) h1
        exact ⟨hlt, hm⟩
      · cases h

theorem cut?_bounds (hle : first ≤ last) (h : cut? first last = some m) :
    first < m ∧ m ≤ last := by
  rw [cut?] at h
  split at h
  · next hfind =>
    obtain rfl := Option.some.inj h
    simpa using List.find?_some hfind
  · split at h
    · cases h
    · obtain ⟨n, hn, hcut⟩ := List.exists_of_findSome?_eq_some h
      exact blockCut?_bounds hn hle hcut

theorem covers_pieces (hle : first ≤ last) :
    Covers (pieces steps (first, last)) n ↔ first ≤ n ∧ n ≤ last := by
  induction steps generalizing first last with
  | zero => simp [pieces, Covers]
  | succ steps ih =>
    rw [pieces]
    split
    · simp [Covers]
    · next hcut =>
      obtain ⟨hlt, hm⟩ := cut?_bounds hle hcut
      rw [covers_append, ih (by omega), ih hm]
      omega

theorem le_of_mem_pieces (hle : first ≤ last) {p : Nat × Nat}
    (hp : p ∈ pieces steps (first, last)) : first ≤ p.1 ∧ p.1 ≤ p.2 ∧ p.2 ≤ last := by
  induction steps generalizing first last with
  | zero =>
    obtain rfl := List.mem_singleton.1 hp
    exact ⟨Nat.le_refl _, hle, Nat.le_refl _⟩
  | succ steps ih =>
    rw [pieces] at hp
    split at hp
    · obtain rfl := List.mem_singleton.1 hp
      exact ⟨Nat.le_refl _, hle, Nat.le_refl _⟩
    · next hcut =>
      obtain ⟨hlt, hm⟩ := cut?_bounds hle hcut
      rcases List.mem_append.1 hp with hp | hp
      · have := ih (by omega) hp
        omega
      · have := ih hm hp
        omega

def byteValues (n : Nat) : List Nat :=
  if n < 0x80 then [n]
  else if n < 0x800 then [n / 0x40 + 0xc0, n % 0x40 + 0x80]
  else if n < 0x10000 then [n / 0x1000 + 0xe0, n / 0x40 % 0x40 + 0x80, n % 0x40 + 0x80]
  else [n / 0x40000 + 0xf0, n / 0x1000 % 0x40 + 0x80, n / 0x40 % 0x40 + 0x80, n % 0x40 + 0x80]

theorem map_toNat_encode (c : Char) : (Utf8.encode [c]).map UInt8.toNat = byteValues c.toNat := by
  have hc := toNat_valid c
  have he : Utf8.encode [c] = String.utf8EncodeChar c := by
    simp [Utf8.encode, List.utf8Encode]
  rw [he, String.utf8EncodeChar, byteValues]
  simp only [Char.toNat_val, ← Nat.lt_succ_iff, Nat.succ_eq_add_one, Nat.reduceAdd]
  generalize c.toNat = n at hc
  split
  · simp
    omega
  · split
    · simp
      omega
    · split
      · simp
        omega
      · simp
        omega

theorem length_byteValues_eq_iff : (byteValues n).length = (byteValues m).length ↔
    (n < 0x80 ↔ m < 0x80) ∧ (n < 0x800 ↔ m < 0x800) ∧ (n < 0x10000 ↔ m < 0x10000) := by
  have hlen (k : Nat) : (byteValues k).length =
      if k < 0x80 then 1 else if k < 0x800 then 2 else if k < 0x10000 then 3 else 4 := by
    simp only [byteValues, apply_ite List.length, List.length_cons, List.length_nil, Nat.zero_add,
      Nat.reduceAdd]
  rw [hlen, hlen]
  grind

theorem SameLength.length_eq (h : SameLength first last) (hle : first ≤ last) :
    (byteValues first).length = (byteValues last).length := by
  have h₁ := h.one
  have h₂ := h.two
  have h₃ := h.three
  exact length_byteValues_eq_iff.2 ⟨by omega, by omega, by omega⟩

theorem Aligned.between_iff (h : Aligned 0x40 first last) : first ≤ n ∧ n ≤ last ↔
    (first / 0x40 ≤ n / 0x40 ∧ n / 0x40 ≤ last / 0x40) ∧
      first % 0x40 ≤ n % 0x40 ∧ n % 0x40 ≤ last % 0x40 := by
  rw [Aligned] at h
  omega

theorem Aligned.div (h : Aligned (0x40 * n) first last) (hn : 0 < n) :
    Aligned n (first / 0x40) (last / 0x40) := by
  rw [Aligned, Nat.div_div_eq_div_mul, Nat.div_div_eq_div_mul]
  refine h.imp id fun h ↦ ⟨?_, ?_⟩
  · rw [← Nat.mod_mul_right_div_self, h.1, Nat.zero_div]
  · rw [← Nat.mod_mul_right_div_self, h.2]
    omega

def Accepts (seq : List ByteRange) (bytes : List Nat) : Prop :=
  List.Forall₂ (fun r b ↦ r.1 ≤ b ∧ b ≤ r.2) seq bytes

/-- A range stands for one sequence: its encodings have one length, and those of more than one byte
have a byte at most that is neither fixed nor free. -/
structure Uncut (first last : Nat) : Prop where
  le : first ≤ last
  same : SameLength first last
  aligned : 0x80 ≤ first → ∀ k ∈ blockSizes, Aligned k first last

theorem Uncut.of_cut? (hle : first ≤ last) (h : cut? first last = none) : Uncut first last := by
  have hsame : SameLength first last := by
    rw [cut?] at h
    split at h
    · cases h
    · next hfind =>
      have hedges : (first < 0x80 → last < 0x80) ∧ (first < 0x800 → last < 0x800) ∧
          (first < 0x10000 → last < 0x10000) := by
        simpa using hfind
      exact ⟨by omega, by omega, by omega⟩
  refine ⟨hle, hsame, fun hfirst k hk ↦ ?_⟩
  rw [cut?_of_sameLength hsame, if_neg (by omega), List.findSome?_eq_none_iff] at h
  exact blockCut?_eq_none_iff.1 (h k hk)

theorem Uncut.accepts_iff (h : Uncut first last) :
    Accepts ((byteValues first).zip (byteValues last)) (byteValues n) ↔ first ≤ n ∧ n ≤ last := by
  have hlast := length_byteValues_eq_iff.1 (h.same.length_eq h.le)
  by_cases hn : (byteValues first).length = (byteValues n).length
  · have hn := length_byteValues_eq_iff.1 hn
    simp only [byteValues, ← hlast, ← hn]
    split
    · simp [Accepts]
    · next hone =>
      have hal := h.aligned (Nat.not_lt.1 hone)
      have h₁ : Aligned 0x40 first last := hal _ (by simp [blockSizes])
      have h₂ : Aligned (0x40 * 0x40) first last := hal _ (by simp [blockSizes])
      have h₃ : Aligned (0x40 * (0x40 * 0x40)) first last := hal _ (by simp [blockSizes])
      -- from the last byte to the first, each one is taken off by a division
      rw [h₁.between_iff]
      split
      · simp [Accepts]
      · rw [(h₂.div (by omega)).between_iff]
        split
        · simp [Accepts, Nat.div_div_eq_div_mul, and_assoc]
        · rw [((h₃.div (by omega)).div (by omega)).between_iff]
          simp [Accepts, Nat.div_div_eq_div_mul, and_assoc]
  · refine iff_of_false (fun hacc ↦ hn ?_) fun hn' ↦ hn ?_
    · rw [← hacc.length_eq, List.length_zip, ← h.same.length_eq h.le, Nat.min_self]
    · exact (h.same.mono (Nat.le_refl _) hn'.2).length_eq hn'.1

theorem byteSequence_eq_zip (hfirst : first.isValidChar) (hlast : last.isValidChar) :
    byteSequence (first, last) = (byteValues first).zip (byteValues last) := by
  have hbytes {n : Nat} (hn : n.isValidChar) :
      byteValues n = (Utf8.encode [Char.ofNat n]).map UInt8.toNat := by
    rw [map_toNat_encode, toNat_ofNat hn]
  rw [hbytes hfirst, hbytes hlast, List.zip_map]
  rfl

/-- The byte sequences of a set take the encodings of its characters and no others. -/
theorem mem_iff_exists_accepts (s : CharSet) (c : Char) : s.mem c = true ↔
    ∃ seq ∈ s.byteSequences, Accepts seq ((Utf8.encode [c]).map UInt8.toNat) := by
  have hpiece {r p : Nat × Nat} (hr : r ∈ s.ranges) (hp : p ∈ pieces 16 r) :
      Accepts (byteSequence p) (byteValues c.toNat) ↔ p.1 ≤ c.toNat ∧ c.toNat ≤ p.2 := by
    have hle := s.ascending.le r hr
    obtain ⟨hfirst, hp', hlast⟩ := le_of_mem_pieces hle hp
    have hvalid {n : Nat} (hn : p.1 ≤ n ∧ n ≤ p.2) : n.isValidChar :=
      (s.scalar r hr).isValidChar ⟨by omega, by omega⟩
    rw [byteSequence_eq_zip (hvalid ⟨Nat.le_refl _, hp'⟩) (hvalid ⟨hp', Nat.le_refl _⟩)]
    exact (Uncut.of_cut? hp' (settled_sixteen hle p hp)).accepts_iff
  rw [mem_iff_covers, map_toNat_encode]
  simp only [byteSequences, List.mem_map, List.mem_flatMap]
  constructor
  · rintro ⟨r, hr, hc⟩
    obtain ⟨p, hp, hc⟩ := (covers_pieces (s.ascending.le r hr)).2 hc
    exact ⟨_, ⟨p, ⟨r, hr, hp⟩, rfl⟩, (hpiece hr hp).2 hc⟩
  · rintro ⟨_, ⟨p, ⟨r, hr, hp⟩, rfl⟩, hacc⟩
    exact ⟨r, hr, (covers_pieces (s.ascending.le r hr)).1 ⟨p, hp, (hpiece hr hp).1 hacc⟩⟩

end CharSet

end LiteralPatch
