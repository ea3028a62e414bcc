import LiteralPatch.Proofs.Literal.Pass
import LiteralPatch.Proofs.SourceText

namespace LiteralPatch

namespace Literal

/-- A backslash takes the character at the position. -/
def Taken (s : Text) : Nat → Prop
  | 0 => False
  | i + 1 => 0 < i ∧ s[i]? = some '\\' ∧ ¬Taken s i

/-- A letter that no backslash takes; the first character does not count. -/
def FreeLetterAt (s : Text) (i : Nat) : Prop :=
  0 < i ∧ ¬Taken s i ∧ ∃ c, s[i]? = some c ∧ c.isAlpha = true

def FirstFrom (s : Text) (n : Nat) : Option Nat → Prop
  | none => ∀ i, n ≤ i → ¬FreeLetterAt s i
  | some m => n ≤ m ∧ FreeLetterAt s m ∧ ∀ i, n ≤ i → i < m → ¬FreeLetterAt s i

variable {s p t : Text} {n : Nat} {o o' : Option Nat} {k : LetterCut}

theorem FirstFrom.of_succ (hn : ¬FreeLetterAt s n) (h : FirstFrom s (n + 1) o) :
    FirstFrom s n o := by
  have hstep {i : Nat} (hi : n ≤ i) (hs : n + 1 ≤ i → ¬FreeLetterAt s i) :
      ¬FreeLetterAt s i := by
    rcases Nat.eq_or_lt_of_le hi with rfl | hi
    · exact hn
    · exact hs hi
  cases o with
  | none => exact fun i hi ↦ hstep hi (h i)
  | some m =>
    obtain ⟨hm, hfree, hbefore⟩ := h
    exact ⟨by omega, hfree, fun i hi him ↦ hstep hi fun hs ↦ hbefore i hs him⟩

theorem FirstFrom.unique (h : FirstFrom s n o) (h' : FirstFrom s n o') : o = o' := by
  cases o with
  | none =>
    cases o' with
    | none => rfl
    | some m' => exact absurd h'.2.1 (h m' h'.1)
  | some m =>
    cases o' with
    | none => exact absurd h.2.1 (h' m h.1)
    | some m' =>
      obtain ⟨hm, hfree, hbefore⟩ := h
      obtain ⟨hm', hfree', hbefore'⟩ := h'
      rcases Nat.lt_trichotomy m m' with hlt | rfl | hlt
      · exact absurd hfree (hbefore' m hm hlt)
      · rfl
      · exact absurd hfree' (hbefore m' hm' hlt)

theorem taken_length_succ (hp : p ≠ []) (c : Char) (t : Text) :
    Taken (p ++ c :: t) (p.length + 1) ↔ c = '\\' ∧ ¬Taken (p ++ c :: t) p.length := by
  rw [Taken, List.getElem?_append_right (Nat.le_refl _), Nat.sub_self, List.getElem?_cons_zero,
    Option.some_inj]
  exact and_iff_right (List.length_pos_iff.2 hp)

/-- The flag of the reader tells whether the next character is taken. -/
theorem firstFrom_cutAtLetter? {taken : Bool} (hp : p ≠ [])
    (ht : taken = true ↔ Taken (p ++ t) p.length) :
    FirstFrom (p ++ t) p.length
      ((cutAtLetter? taken t).map fun k ↦ p.length + k.before.length) := by
  induction t generalizing p taken with
  | nil =>
    rintro i hi ⟨-, -, c, hc, -⟩
    rw [List.append_nil, List.getElem?_eq_none hi] at hc
    cases hc
  | cons c t ih =>
    have hc : (p ++ c :: t)[p.length]? = some c := by simp
    have hfree : FreeLetterAt (p ++ c :: t) p.length ↔ taken = false ∧ c.isAlpha = true := by
      rw [FreeLetterAt, ← ht, hc]
      simp [List.length_pos_iff.2 hp]
    rw [cutAtLetter?]
    split
    · next h =>
      rw [Bool.and_eq_true, Bool.not_eq_true'] at h
      exact ⟨Nat.le_refl _, hfree.2 h, fun i hi hlt ↦ absurd hi (Nat.not_le.2 hlt)⟩
    · next h =>
      rw [Bool.and_eq_true, Bool.not_eq_true'] at h
      refine .of_succ (mt hfree.1 h) ?_
      have hs : p ++ c :: t = p ++ [c] ++ t := List.append_cons p c t
      have hl : p.length + 1 = (p ++ [c]).length := by simp
      have hnext : (!taken && c == '\\') = true ↔ Taken (p ++ c :: t) (p.length + 1) := by
        rw [taken_length_succ hp, ← ht]
        simp [and_comm]
      rw [hs, hl] at hnext ⊢
      have hk (k : LetterCut) : p.length + (k.before.length + 1) =
          (p ++ [c]).length + k.before.length := by
        rw [← hl]
        omega
      have hrest := ih (List.concat_ne_nil c p) hnext
      simpa [Option.map_map, Function.comp_def, hk] using hrest

theorem firstFrom_letterAt (s : Text) : FirstFrom s 0 (letterAt s) := by
  cases s with
  | nil =>
    rintro i - ⟨-, -, c, hc, -⟩
    cases hc
  | cons c t =>
    refine .of_succ (fun h ↦ Nat.lt_irrefl 0 h.1) ?_
    have hfirst : false = true ↔ Taken ([c] ++ t) [c].length := by simp [Taken]
    have h := firstFrom_cutAtLetter? (List.cons_ne_nil c []) hfirst
    simpa [letterAt, split?, Function.comp_def, Nat.add_comm] using h

theorem split?_eq_none_iff : split? s = none ↔ ∀ i, ¬FreeLetterAt s i := by
  have h := firstFrom_letterAt s
  constructor
  · intro hs i
    rw [letterAt, hs] at h
    exact h i (Nat.zero_le i)
  · intro hs
    have hnone : FirstFrom s 0 none := fun i _ ↦ hs i
    exact Option.map_eq_none_iff.1 (h.unique hnone)

theorem split?_eq_some_iff : split? s = some k ↔
    k.before ++ k.letter :: k.after = s ∧ FreeLetterAt s k.before.length ∧
      ∀ i < k.before.length, ¬FreeLetterAt s i := by
  have h := firstFrom_letterAt s
  constructor
  · intro hs
    rw [letterAt, hs] at h
    obtain ⟨-, hfree, hbefore⟩ := h
    exact ⟨split?_append hs, hfree, fun i ↦ hbefore i (Nat.zero_le i)⟩
  · rintro ⟨hk, hfree, hbefore⟩
    have hsome : FirstFrom s 0 (some k.before.length) :=
      ⟨Nat.zero_le _, hfree, fun i _ ↦ hbefore i⟩
    obtain ⟨⟨b, c, a⟩, hs, hl⟩ := Option.map_eq_some_iff.1 (h.unique hsome)
    obtain ⟨rfl, hrest⟩ := List.append_inj ((split?_append hs).trans hk.symm) hl
    obtain ⟨rfl, rfl⟩ := List.cons.inj hrest
    exact hs

theorem isAlpha_letter (h : split? s = some k) : k.letter.isAlpha = true := by
  obtain ⟨hk, ⟨-, -, c, hc, ha⟩, -⟩ := split?_eq_some_iff.1 h
  have hl : s[k.before.length]? = some k.letter := by
    rw [← hk]
    simp
  rw [hl] at hc
  obtain rfl := Option.some.inj hc
  exact ha

/-- The parts of a cut as slices of the bytes of the text, of which the letter is a single one. -/
structure LetterCut.Slices (k : LetterCut) (s : Text) : Prop where
  boundary_before : Utf8.IsBoundary s (Utf8.size k.before)
  boundary_behind : Utf8.IsBoundary s (Utf8.size k.before + 1)
  before : (Utf8.encode s).take (Utf8.size k.before) = Utf8.encode k.before
  letter : ((Utf8.encode s).drop (Utf8.size k.before)).take 1 = Utf8.encode [k.letter]
  after : (Utf8.encode s).drop (Utf8.size k.before + 1) = Utf8.encode k.after

theorem slices_of_split? (h : split? s = some k) : k.Slices s := by
  have hone : Utf8.size [k.letter] = 1 := Utf8.size_of_isAlpha (isAlpha_letter h)
  have hsucc : Utf8.size k.before + 1 = Utf8.size (k.before ++ [k.letter]) := by
    rw [Utf8.size_append, hone]
  have hbefore : s = k.before ++ k.letter :: k.after := (split?_append h).symm
  have hbehind : s = k.before ++ [k.letter] ++ k.after := by simp [hbefore]
  have hletter : (Utf8.encode (k.letter :: k.after)).take 1 = Utf8.encode [k.letter] := by
    rw [← hone]
    exact Utf8.take_size_encode [k.letter] k.after
  refine ⟨?_, ?_, ?_, ?_, ?_⟩
  · rw [hbefore]
    exact Utf8.isBoundary_size _ _
  · rw [hsucc, hbehind]
    exact Utf8.isBoundary_size _ _
  · rw [hbefore, Utf8.take_size_encode]
  · rw [hbefore, Utf8.drop_size_encode, hletter]
  · rw [hsucc, hbehind, Utf8.drop_size_encode]

/-- A text without a free letter is not cut, and any other text at the first one, which is all that
the cut has to be. The offsets of the cut in the bytes lie between characters. -/
theorem split_at_freeLetter (s : Text) :
    (split? s = none ↔ ∀ i, ¬FreeLetterAt s i) ∧
      ∀ k, (split? s = some k ↔
          k.before ++ k.letter :: k.after = s ∧ FreeLetterAt s k.before.length ∧
            ∀ i < k.before.length, ¬FreeLetterAt s i) ∧
        (split? s = some k → k.letter.isAlpha = true ∧ k.Slices s) := by
  refine ⟨split?_eq_none_iff, fun k ↦ ⟨split?_eq_some_iff, fun h ↦ ?_⟩⟩
  exact ⟨isAlpha_letter h, slices_of_split? h⟩

theorem split_at_freeLetter_wide :
    let s : Text := ['"', '\\', 'é', '€', 'b', 'c', '"']
    let k : LetterCut := ⟨['"', '\\', 'é', '€'], 'b', ['c', '"']⟩
    split? s = some k ∧ FreeLetterAt s 4 ∧ Utf8.size k.before = 7 ∧ k.Slices s := by
  intro s k
  have hk : split? s = some k := by decide
  obtain ⟨-, hcut⟩ := split_at_freeLetter s
  obtain ⟨hiff, hslices⟩ := hcut k
  exact ⟨hk, (hiff.1 hk).2.1, by decide, (hslices hk).2⟩

end Literal

end LiteralPatch
