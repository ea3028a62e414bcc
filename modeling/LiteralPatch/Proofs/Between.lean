import LiteralPatch.Proofs.Escape
import LiteralPatch.Proofs.Literal.Mask
import LiteralPatch.Proofs.Literal.Token

namespace LiteralPatch

namespace Rule

open Literal

/-- The position is the first free letter of a literal in double quotes or, once `x` stands behind
each of these letters, of one in single quotes. -/
def Touched (x s : Text) (i : Nat) : Prop :=
  i ∈ letters .double s ∨
    Text.landing (fun k ↦ if k ∈ letters .double s then x else []) i ∈
      letters .single (s.insertBehind fun k ↦ if k ∈ letters .double s then x else [])

def putFirst (w : Whitelist) (s : Text) : Nat → Text :=
  insertion .double (w.escaped .double) .code s

def putSecond (w : Whitelist) (s : Text) : Nat → Text :=
  insertion .single (w.escaped .single) .code (s.insertBehind (putFirst w s))

def put (w : Whitelist) (s : Text) (i : Nat) : Text :=
  putSecond w s (Text.landing (putFirst w s) i) ++
    (putFirst w s i).insertBehind fun k ↦ putSecond w s (Text.landing (putFirst w s) i + 1 + k)

variable {w : Whitelist} {s x : Text} {i : Nat}

theorem applyAll_both_eq_put (w : Whitelist) (s : Text) :
    (applyAll (both w .letter) s).content = s.insertBehind (put w s) := by
  have hc : (applyAll (both w .letter) s).content =
      (s.insertBehind (putFirst w s)).insertBehind (putSecond w s) := by
    rw [applyAll_both_letter]
    rfl
  rw [hc, Text.insertBehind_insertBehind]
  rfl

theorem touched_iff : Touched x s i ↔ i ∈ lettersFrom .double .code s ∨
    Text.landing (insertion .double x .code s) i ∈
      lettersFrom .single .code (s.insertBehind (insertion .double x .code s)) := by
  rw [Touched]
  simp only [letters_eq_lettersFrom]
  rfl

theorem put_ne_nil_iff : put w s i ≠ [] ↔ w.raw ≠ [] ∧ Touched (w.escaped .double) s i := by
  have hput : put w s i = [] ↔
      putSecond w s (Text.landing (putFirst w s) i) = [] ∧ putFirst w s i = [] := by
    rw [put, List.append_eq_nil_iff, Text.insertBehind_eq_nil_iff]
  have hnil (q : Quote) (t : Text) (j : Nat) :
      insertion q (w.escaped q) .code t j = [] ↔ (j ∈ lettersFrom q .code t → w.raw = []) := by
    rw [insertion, ite_eq_right_iff, Whitelist.escaped, Quote.escape_eq_nil_iff]
  have hfirst : putFirst w s i = [] ↔ (i ∈ lettersFrom .double .code s → w.raw = []) :=
    hnil .double s i
  have hsecond : putSecond w s (Text.landing (putFirst w s) i) = [] ↔
      (Text.landing (putFirst w s) i ∈
        lettersFrom .single .code (s.insertBehind (putFirst w s)) → w.raw = []) :=
    hnil .single _ _
  rw [Ne, hput, hfirst, hsecond, touched_iff, ← putFirst]
  grind

theorem Touched.of_masks {y : Text} (hm : Masks .single x y) (h : Touched x s i) :
    Touched y s i := by
  have hs : InSync .code .code := trivial
  rw [touched_iff] at h ⊢
  rcases h with h | h
  · exact .inl h
  · exact .inr (hm.mem_lettersFrom (by decide) (.refl .code) hs h)

theorem Touched.replicate (hw : '\n' ∉ w.raw) (h : Touched (w.escaped .double) s i) :
    Touched (List.replicate (w.raw.count '\'') '\'') s i := by
  have hx : Inline .single (w.escaped .double) := Quote.inline_escape _ (by decide) hw
  have hn : (w.escaped .double).count '\'' = w.raw.count '\'' :=
    Quote.count_escape _ (by decide) _
  rw [← hn]
  exact h.of_masks (masks_replicate hx)

theorem Touched.signs {n : Nat} (m : Nat) (h : Touched (List.replicate n '\'') s i) :
    Touched (List.replicate m '#' ++ List.replicate n '\'') s i := by
  have hm : Masks .single (List.replicate n '\'') (List.replicate n '\'') := by
    have hm := masks_replicate (inline_replicate .single n)
    rwa [List.count_replicate_self] at hm
  exact h.of_masks (masks_replicate_append (by decide) (by decide) (by decide) hm m)

theorem Touched.exists_alpha (hi : i < s.length) (h : Touched x s i) :
    ∃ c, s[i]? = some c ∧ c.isAlpha = true := by
  rw [touched_iff] at h
  rcases h with h | h
  · exact exists_alpha_of_mem_lettersFrom h
  · obtain ⟨c, hc, ha⟩ := exists_alpha_of_mem_lettersFrom h
    rw [Text.getElem?_landing _ hi] at hc
    exact ⟨c, hc, ha⟩

theorem countP_insertion {q : Quote} {p : Place} (hw : w.raw.countP Char.isAlpha = 0) :
    (insertion q (w.escaped q) p s i).countP Char.isAlpha = 0 := by
  rw [insertion]
  split
  · exact q.countP_escape_eq_zero (by decide) hw
  · rfl

theorem countP_put (hw : w.raw.countP Char.isAlpha = 0) :
    (put w s i).countP Char.isAlpha = 0 := by
  have hfirst : (putFirst w s i).countP Char.isAlpha = 0 := countP_insertion hw
  have hsecond (j : Nat) : (putSecond w s j).countP Char.isAlpha = 0 := countP_insertion hw
  rw [put, List.countP_append, hsecond, Nat.zero_add]
  rw [Text.countP_insertBehind_eq_iff.2 fun k _ ↦ hsecond _]
  exact hfirst

theorem put_eq_append (hw : w.raw.countP Char.isAlpha = 0) (hi : i < s.length) :
    put w s i = putSecond w s (Text.landing (putFirst w s) i) ++ putFirst w s i := by
  have hfirst : (putFirst w s i).countP Char.isAlpha = 0 := countP_insertion hw
  rw [put, Text.insertBehind_eq_self]
  intro k hk
  refine if_neg fun hm ↦ ?_
  obtain ⟨c, hc, ha⟩ := exists_alpha_of_mem_lettersFrom hm
  rw [Text.getElem?_landing_add _ hi hk] at hc
  exact List.countP_eq_zero.1 hfirst c (List.mem_of_getElem? hc) ha

theorem Touched.prefix_put (hw : w.raw.countP Char.isAlpha = 0) (hx : ∀ q, x <+: w.escaped q)
    (hi : i < s.length) (h : Touched (w.escaped .double) s i) : x <+: put w s i := by
  rw [touched_iff, ← putFirst] at h
  rw [put_eq_append hw hi]
  by_cases hl : Text.landing (putFirst w s) i ∈
      lettersFrom .single .code (s.insertBehind (putFirst w s))
  · have hs : putSecond w s (Text.landing (putFirst w s) i) = w.escaped .single := if_pos hl
    rw [hs]
    exact (hx .single).trans (List.prefix_append _ _)
  · have hs : putSecond w s (Text.landing (putFirst w s) i) = [] := if_neg hl
    have hf : putFirst w s i = w.escaped .double := if_pos (h.resolve_right hl)
    rw [hs, hf, List.nil_append]
    exact hx .double

theorem escaped_double_signs (m n : Nat) :
    Whitelist.escaped ⟨List.replicate m '#' ++ List.replicate n '\''⟩ .double =
      List.replicate m '#' ++ List.replicate n '\'' := by
  have hn : Quote.double.escape (List.replicate n '\'') = List.replicate n '\'' := by
    simpa [Quote.escape_nil] using
      Quote.double.escape_replicate_append (by decide : '\'' ≠ '\\') (by decide) n []
  rw [Whitelist.escaped, Quote.escape_replicate_append _ (by decide) (by decide), hn]

theorem Touched.inside {n : Nat}
    (h : OnlyInside s (applyAll
      (both ⟨List.replicate (s.length + 1) '#' ++ List.replicate n '\''⟩ .letter) s).content)
    (hi : i < s.length) (ht : Touched (List.replicate n '\'') s i) : Inside s i := by
  have hw : (List.replicate (s.length + 1) '#' ++ List.replicate n '\'').countP Char.isAlpha =
      0 := by
    simp [List.countP_append, List.countP_replicate]
  have hx (q : Quote) : List.replicate (s.length + 1) '#' <+:
      Whitelist.escaped ⟨List.replicate (s.length + 1) '#' ++ List.replicate n '\''⟩ q := by
    have hm : '#' ≠ q.mark := by cases q <;> decide
    rw [Whitelist.escaped, q.escape_replicate_append (by decide) hm]
    exact List.prefix_append _ _
  have hlong : ¬List.replicate (s.length + 1) '#' <+: s.drop (i + 1) := by
    intro hp
    have hle := hp.length_le
    rw [List.length_replicate, List.length_drop] at hle
    omega
  have hd (q : Quote) : '#' ≠ q.mark := by cases q <;> decide
  obtain ⟨c, hc, ha⟩ := ht.exists_alpha hi
  have hsigns := ht.signs (s.length + 1)
  rw [← escaped_double_signs] at hsigns
  rw [applyAll_both_eq_put] at h
  exact h.inside (fun _ _ ↦ countP_put hw) hc ha hd (hsigns.prefix_put hw hx hi) hlong

/-- Where the rules of the pair insert, and when all of that is strictly inside literals. For the
whitelists with a given number of single quotes it is exactly when so many bare quotes touch
nothing else; without any, when each quote alone has its letters there. -/
theorem applyAll_both_onlyInside_iff (s : Text) :
    (∀ w, ∃ f, (applyAll (both w .letter) s).content = s.insertBehind f ∧
      ∀ i < s.length, f i ≠ [] ↔ w.raw ≠ [] ∧ Touched (w.escaped .double) s i) ∧
    (∀ n, (∀ w, '\n' ∉ w.raw → w.raw.count '\'' = n →
        OnlyInside s (applyAll (both w .letter) s).content) ↔
      ∀ i < s.length, Touched (List.replicate n '\'') s i → Inside s i) ∧
    (∀ i, Touched [] s i ↔ i ∈ letters .double s ∨ i ∈ letters .single s) := by
  refine ⟨fun w ↦ ⟨put w s, applyAll_both_eq_put w s, fun i _ ↦ put_ne_nil_iff⟩, fun n ↦ ?_,
    fun i ↦ ?_⟩
  · constructor
    · intro h i hi ht
      refine Touched.inside (h _ ?_ ?_) hi ht
      · simp
      · simp [List.count_append, List.count_replicate]
    · intro h w hw hn
      refine ⟨put w s, applyAll_both_eq_put w s, fun i hi hp ↦ h i hi ?_⟩
      exact hn ▸ (put_ne_nil_iff.1 hp).2.replicate hw
  · have hf : (fun k ↦ if k ∈ letters .double s then ([] : Text) else []) = fun _ ↦ [] :=
      funext fun _ ↦ ite_self _
    rw [Touched, hf, Text.landing_eq_self fun _ ↦ rfl, Text.insertBehind_eq_self fun _ _ ↦ rfl]

theorem not_onlyInside_apostrophes :
    '\n' ∉ (['#'] : Text) ∧
      ¬OnlyInside ['"', '1', '\'', '"', ' ', 'x', ' ', '"', '\'', '"']
        (applyAll (both ⟨['#']⟩ .letter)
          ['"', '1', '\'', '"', ' ', 'x', ' ', '"', '\'', '"']).content := by
  refine ⟨by decide, fun h ↦ ?_⟩
  have hout : (applyAll (both ⟨['#']⟩ .letter)
      ['"', '1', '\'', '"', ' ', 'x', ' ', '"', '\'', '"']).content =
        Text.insertBehind (fun i ↦ if i = 5 then ['#'] else [])
          ['"', '1', '\'', '"', ' ', 'x', ' ', '"', '\'', '"'] := by decide +kernel
  rw [hout] at h
  have hin := h.inside (c := 'x') (d := '#') (n := 1) (i := 5) (by decide) rfl (by decide)
    (fun q ↦ by cases q <;> decide) (by decide) (by decide)
  exact absurd hin (by decide +kernel)

end Rule

end LiteralPatch
