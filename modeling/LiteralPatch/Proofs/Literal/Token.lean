import LiteralPatch.Proofs.Literal.Units
import LiteralPatch.Proofs.Scan

namespace LiteralPatch

namespace Literal

def readAny? : Text → Option (Text × Text)
  | [] => none
  | c :: s => if c = '"' ∨ c = '\'' then read? c (c :: s) else none

theorem exists_read?_of_readAny? {s a r : Text} (h : readAny? s = some (a, r)) :
    ∃ q : Quote, read? q.mark s = some (a, r) := by
  cases s with
  | nil => simp [readAny?] at h
  | cons c s =>
    rw [readAny?] at h
    split at h
    · next hc =>
      rcases hc with rfl | rfl
      · exact ⟨.double, h⟩
      · exact ⟨.single, h⟩
    · simp at h

/-- Code and literals: a quote that nothing closes on its line stays code. -/
def tokenMatcher : Matcher Text where
  run := readAny?
  spell := id
  spell_append h := by
    obtain ⟨q, hq⟩ := exists_read?_of_readAny? h
    exact (matcher q.mark).spell_append hq
  spell_ne_nil h := by
    obtain ⟨q, hq⟩ := exists_read?_of_readAny? h
    exact (matcher q.mark).spell_ne_nil hq

def Inside (s : Text) (i : Nat) : Prop :=
  ∃ p ∈ tokenMatcher.located (tokenMatcher.segments s), p.1 ≤ i ∧ i + 1 < p.1 + p.2.length

instance (s : Text) (i : Nat) : Decidable (Inside s i) :=
  inferInstanceAs (Decidable (∃ p ∈ tokenMatcher.located (tokenMatcher.segments s), _))

/-- A text that comes from `s` by insertions strictly inside literals, so that all code between
the literals stands in it unchanged. -/
def OnlyInside (s out : Text) : Prop :=
  ∃ f, out = s.insertBehind f ∧ ∀ i < s.length, f i ≠ [] → Inside s i

variable {s : Text} {i : Nat}

theorem Inside.of_succ {d : Char} (h : Inside s (i + 1)) (hs : s[i + 1]? = some d)
    (hd : ∀ q : Quote, d ≠ q.mark) : Inside s i := by
  obtain ⟨p, hp, hle, hlt⟩ := h
  refine ⟨p, hp, ?_, by omega⟩
  obtain ⟨r, hr⟩ := tokenMatcher.exists_run_drop hp
  obtain ⟨q, hq⟩ := exists_read?_of_readAny? hr
  obtain ⟨b, -, ha, hb⟩ := read?_eq_some_iff.1 hq
  have hmark : s[p.1]? = some q.mark := by
    have h0 := congrArg (·[0]?) hb
    simpa [ha] using h0
  rcases Nat.lt_or_eq_of_le hle with hlt | heq
  · omega
  · rw [heq, hs] at hmark
    exact absurd (Option.some.inj hmark) (hd q)

theorem Inside.of_run {d : Char} {j : Nat} (h : Inside s (i + j))
    (hs : ∀ k < j, s[i + (k + 1)]? = some d) (hd : ∀ q : Quote, d ≠ q.mark) : Inside s i := by
  induction j with
  | zero => exact h
  | succ j ih =>
    refine ih ?_ fun k hk ↦ hs k (Nat.lt_succ_of_lt hk)
    exact Inside.of_succ h (hs j (Nat.lt_succ_self j)) hd

theorem OnlyInside.inside {F : Nat → Text} (h : OnlyInside s (s.insertBehind F)) {c d : Char}
    {n : Nat} (hF : ∀ j < s.length, (F j).countP Char.isAlpha = 0) (hi : s[i]? = some c)
    (hc : c.isAlpha = true) (hd : ∀ q : Quote, d ≠ q.mark)
    (hn : List.replicate n d <+: F i) (hs : ¬List.replicate n d <+: s.drop (i + 1)) :
    Inside s i := by
  obtain ⟨f, he, hf⟩ := h
  obtain ⟨hlt, rfl⟩ := List.getElem?_eq_some_iff.1 hi
  have hcut : s = s.take i ++ s[i] :: s.drop (i + 1) := by simp
  have hlen : (s.take i).length = i := List.length_take_of_le (Nat.le_of_lt hlt)
  have hf0 : ∀ j < s.length, (f j).countP Char.isAlpha = 0 := by
    rw [← Text.countP_insertBehind_eq_iff, ← he, Text.countP_insertBehind_eq_iff]
    exact hF
  -- No letter is inserted, so the letters tell where in the result position `i` is.
  have hbehind : F i ++ Text.insertBehind (fun j ↦ F (i + (j + 1))) (s.drop (i + 1)) =
      f i ++ Text.insertBehind (fun j ↦ f (i + (j + 1))) (s.drop (i + 1)) := by
    rw [hcut] at he hF hf0
    have hb := Text.insertBehind_behind_eq hc hF hf0 he
    rwa [hlen] at hb
  by_cases hfi : f i = []
  · -- The signs then come from further behind, across signs that stand in `s` already.
    rw [hfi, List.nil_append] at hbehind
    have hp : List.replicate n d <+:
        Text.insertBehind (fun j ↦ f (i + (j + 1))) (s.drop (i + 1)) :=
      hbehind ▸ hn.trans (List.prefix_append _ _)
    obtain ⟨j, hj, hne, hk⟩ := Text.exists_of_replicate_prefix hp hs
    rw [List.length_drop] at hj
    refine Inside.of_run (hf (i + (j + 1)) (by omega) hne) (fun k hkj ↦ ?_) hd
    have hd' := hk k (by omega)
    rw [List.getElem?_drop] at hd'
    rw [← hd']
    congr 1
    omega
  · exact hf i hlt hfi

end Literal

end LiteralPatch
