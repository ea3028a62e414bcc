import LiteralPatch.Proofs.CharSet
import LiteralPatch.Text.Property.Name
import Mathlib.Data.List.Pairwise

namespace LiteralPatch

namespace CharSet

variable {rs : List (Nat × Nat)} {l : List (List (Nat × Nat))} {n seen : Nat}

/-- What ranges cover, as the binary digits of a number. -/
def mask (rs : List (Nat × Nat)) : Nat :=
  rs.foldr (fun r m ↦ (((1 <<< (r.2 + 1 - r.1)) - 1) <<< r.1) ||| m) 0

theorem testBit_mask : (mask rs).testBit n = true ↔ Covers rs n := by
  induction rs with
  | nil => simp [mask, not_covers_nil]
  | cons r rs ih =>
    have hr : n ≥ r.1 ∧ n - r.1 < r.2 + 1 - r.1 ↔ r.1 ≤ n ∧ n ≤ r.2 := by omega
    rw [covers_cons, ← ih, mask, List.foldr_cons, ← mask, Nat.testBit_or, Bool.or_eq_true,
      Nat.testBit_shiftLeft, Nat.one_shiftLeft, Nat.testBit_two_pow_sub_one, Bool.and_eq_true,
      decide_eq_true_eq, decide_eq_true_eq, hr]

/-- Each of the lists covers nothing that one before it covers, or that was seen already. -/
def areApart : Nat → List (List (Nat × Nat)) → Bool
  | _, [] => true
  | seen, rs :: l => (seen &&& mask rs).beq 0 && areApart (seen ||| mask rs) l

theorem not_covers_of_areApart (h : areApart seen l = true) (hn : seen.testBit n = true) :
    ∀ rs ∈ l, ¬Covers rs n := by
  induction l generalizing seen with
  | nil => exact nofun
  | cons rs l ih =>
    rw [areApart, Bool.and_eq_true, Nat.beq_eq] at h
    refine List.forall_mem_cons.2 ⟨fun hrs ↦ ?_, ih h.2 (by simp [hn])⟩
    have hboth : (seen &&& mask rs).testBit n = true := by
      rw [Nat.testBit_and, hn, testBit_mask.2 hrs]
      rfl
    rw [h.1, Nat.zero_testBit] at hboth
    cases hboth

def Apart (rs rs' : List (Nat × Nat)) : Prop := ∀ n, ¬(Covers rs n ∧ Covers rs' n)

theorem pairwise_of_areApart (h : areApart seen l = true) : l.Pairwise Apart := by
  induction l generalizing seen with
  | nil => exact .nil
  | cons rs l ih =>
    rw [areApart, Bool.and_eq_true] at h
    refine List.pairwise_cons.2 ⟨fun rs' hrs' n hn ↦ ?_, ih h.2⟩
    refine not_covers_of_areApart h.2 ?_ rs' hrs' hn.2
    rw [Nat.testBit_or, testBit_mask.2 hn.1, Bool.or_true]

end CharSet

namespace Script

theorem areApart_all : CharSet.areApart 0 (all.map ranges) = true := by
  decide +kernel

/-- A character belongs to one script at most. -/
theorem eq_of_mem_members {s t : Script} {c : Char} (hs : s ∈ all) (ht : t ∈ all)
    (hcs : s.members.mem c = true) (hct : t.members.mem c = true) : s = t := by
  have : Std.Symm fun s t : Script ↦ CharSet.Apart s.ranges t.ranges :=
    ⟨fun _ _ h n hn ↦ h n hn.symm⟩
  by_contra hne
  have hpair := List.pairwise_map.1 (CharSet.pairwise_of_areApart areApart_all)
  exact hpair.forall hs ht hne c.toNat ⟨CharSet.mem_ofRanges.1 hcs, CharSet.mem_ofRanges.1 hct⟩

end Script

namespace Age

theorem areApart_all : CharSet.areApart 0 (all.map Prod.snd) = true := by
  decide +kernel

def AddedBy (i : Nat) (c : Char) : Prop := ∃ e, all[i]? = some e ∧ CharSet.Covers e.2 c.toNat

theorem AddedBy.unique {i j : Nat} {c : Char} (hi : AddedBy i c) (hj : AddedBy j c) : i = j := by
  have hpair := List.pairwise_map.1 (CharSet.pairwise_of_areApart areApart_all)
  have hnot {i j : Nat} (hi : AddedBy i c) (hj : AddedBy j c) : ¬i < j := by
    intro hlt
    obtain ⟨e, hi, hci⟩ := hi
    obtain ⟨e', hj, hcj⟩ := hj
    obtain ⟨hi', rfl⟩ := List.getElem?_eq_some_iff.1 hi
    obtain ⟨hj', rfl⟩ := List.getElem?_eq_some_iff.1 hj
    exact List.pairwise_iff_getElem.1 hpair i j hi' hj' hlt c.toNat ⟨hci, hcj⟩
  exact Nat.le_antisymm (Nat.not_lt.1 (hnot hj hi)) (Nat.not_lt.1 (hnot hi hj))

/-- A version has what it or an earlier one added. -/
theorem mem_of_upTo?_eq_some {name : String} {s : CharSet} (h : upTo? name = some s) :
    ∃ i e, all[i]? = some e ∧ isNamed e.1 name = true ∧
      ∀ c, s.mem c = true ↔ ∃ j ≤ i, AddedBy j c := by
  unfold upTo? at h
  split at h
  · next i hi =>
    obtain ⟨hlt, hnamed, -⟩ := List.findIdx?_eq_some_iff_getElem.1 hi
    obtain rfl := Option.some.inj h
    refine ⟨i, all[i], List.getElem?_eq_getElem hlt, hnamed, fun c ↦ ?_⟩
    rw [CharSet.mem_ofRanges, CharSet.covers_flatMap]
    constructor
    · rintro ⟨e, he, hc⟩
      obtain ⟨j, hj⟩ := List.mem_iff_getElem?.1 he
      rw [List.getElem?_take] at hj
      split at hj
      · exact ⟨j, by omega, e, hj, hc⟩
      · cases hj
    · rintro ⟨j, hj, e, he, hc⟩
      refine ⟨e, List.mem_iff_getElem?.2 ⟨j, ?_⟩, hc⟩
      rw [List.getElem?_take, if_pos (by omega), he]
  · cases h

end Age

namespace Property

variable {c d : Char} {s sep : Text}

theorem toNat_toLower (c : Char) :
    c.toLower.toNat = if 65 ≤ c.toNat ∧ c.toNat ≤ 90 then c.toNat + 32 else c.toNat := by
  have hcapital : (c.val ≥ 'A'.val ∧ c.val ≤ 'Z'.val) ↔ 65 ≤ c.toNat ∧ c.toNat ≤ 90 :=
    and_congr UInt32.le_iff_toNat_le UInt32.le_iff_toNat_le
  unfold Char.toLower
  split
  · next h =>
    rw [if_pos (hcapital.1 h)]
    have := hcapital.1 h
    change (c.val + 32).toNat = c.val.toNat + 32
    rw [UInt32.toNat_add]
    change (c.toNat + 32) % 2 ^ 32 = c.toNat + 32
    omega
  · next h =>
    rw [if_neg (mt hcapital.2 h)]

def Fixed (d : Char) : Prop := ¬(65 ≤ d.toNat ∧ d.toNat ≤ 90) ∧ ¬(97 ≤ d.toNat ∧ d.toNat ≤ 122)

theorem toLower_eq_iff (h : Fixed d) : c.toLower = d ↔ c = d := by
  rw [← CharSet.toNat_inj, ← CharSet.toNat_inj, toNat_toLower]
  unfold Fixed at h
  split <;> omega

theorem toLower_toLower (c : Char) : c.toLower.toLower = c.toLower := by
  rw [← CharSet.toNat_inj, toNat_toLower, toNat_toLower]
  grind

theorem map_toLower_map_toLower (s : Text) :
    (s.map Char.toLower).map Char.toLower = s.map Char.toLower := by
  simp [toLower_toLower]

def isKept (c : Char) : Bool := c.toNat < 0x80 && c != ' ' && c != '_' && c != '-'

theorem isKept_toLower (c : Char) : isKept c.toLower = isKept c := by
  have hascii : c.toLower.toNat < 0x80 ↔ c.toNat < 0x80 := by
    rw [toNat_toLower]
    split <;> omega
  simp only [isKept, hascii, bne, beq_eq_decide, toLower_eq_iff (show Fixed ' ' by simp [Fixed]),
    toLower_eq_iff (show Fixed '_' by simp [Fixed]), toLower_eq_iff (show Fixed '-' by simp [Fixed])]

theorem lookupName_map_toLower (s : Text) :
    Text.lookupName (s.map Char.toLower) = Text.lookupName s := by
  have hletters (t : Text) : ((t.map Char.toLower).filter isKept).map Char.toLower =
      (t.filter isKept).map Char.toLower := by
    have hkept : isKept ∘ Char.toLower = isKept := funext isKept_toLower
    rw [List.filter_map, hkept, map_toLower_map_toLower]
  unfold isKept at hletters
  simp only [Text.lookupName, ← List.map_take, ← List.map_drop, map_toLower_map_toLower]
  by_cases hmarked : (s.take 2).map Char.toLower = ['i', 's']
  · simp only [if_pos hmarked, hletters]
  · simp only [if_neg hmarked, hletters]

theorem strip?_map_toLower (hsep : ∀ d ∈ sep, Fixed d) (s : Text) :
    Text.strip? sep (s.map Char.toLower) = (Text.strip? sep s).map (List.map Char.toLower) := by
  fun_induction Text.strip? sep s with
  | case1 s => rfl
  | case2 p d s ih =>
    obtain ⟨hd, hp⟩ := List.forall_mem_cons.1 hsep
    rw [List.map_cons, Text.strip?, if_pos ((toLower_eq_iff hd).2 rfl).symm, ih hp]
  | case3 c p d s h =>
    obtain ⟨hc, -⟩ := List.forall_mem_cons.1 hsep
    rw [List.map_cons, Text.strip?, if_neg fun heq ↦ h ((toLower_eq_iff hc).1 heq.symm).symm]
    rfl
  | case4 c p => rfl

theorem cutAround?_map_toLower (hsep : ∀ d ∈ sep, Fixed d) (s : Text) :
    cutAround? sep (s.map Char.toLower) = (cutAround? sep s).map fun parts ↦
      (parts.1.map Char.toLower, parts.2.map Char.toLower) := by
  induction s with
  | nil => rfl
  | cons c s ih =>
    have hstrip := strip?_map_toLower hsep (c :: s)
    rw [List.map_cons] at hstrip ⊢
    rw [cutAround?, cutAround?, hstrip]
    cases Text.strip? sep (c :: s) with
    | some after => rfl
    | none =>
      simp only [Option.map_none, ih, Option.map_map]
      rfl

/-- A property is found by its name in capital letters or in small ones. -/
theorem read_map_toLower (s : Text) : read (s.map Char.toLower) = read s := by
  unfold read
  rw [cutAround?_map_toLower (by simp [Fixed]), cutAround?_map_toLower (by simp [Fixed]),
    cutAround?_map_toLower (by simp [Fixed]), lookupName_map_toLower]
  rcases cutAround? ['!', '='] s with _ | parts
  · rcases cutAround? [':'] s with _ | parts
    · rcases cutAround? ['='] s with _ | parts
      · rfl
      · simp only [Option.map_some, Option.map_none, lookupName_map_toLower]
    · simp only [Option.map_some, Option.map_none, lookupName_map_toLower]
  · simp only [Option.map_some, lookupName_map_toLower]

end Property

end LiteralPatch
