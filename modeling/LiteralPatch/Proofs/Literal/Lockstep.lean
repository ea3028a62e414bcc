import LiteralPatch.Proofs.Literal.Pass

namespace LiteralPatch

namespace Literal

/-- Two passes that both stand in a literal are both between units, or both behind a backslash. -/
def InSync : Place → Place → Prop
  | .code, _ | _, .code => True
  | p, p' => p.isTaken = p'.isTaken

/-- A pass at `p` and the one at `p'` whose result it reads. Either both are for one quote and stand
at one place, or what the first one inserts has no quote of the second one in it. -/
def Follows (q q' : Quote) (insert : Text) (p p' : Place) : Prop :=
  (q = q' ∧ p = p') ∨ (q ≠ q' ∧ q.mark ∉ insert ∧ InSync p p')

variable {q q' : Quote} {p p' : Place} {insert : Text}

theorem InSync.refl (p : Place) : InSync p p := by
  cases p <;> simp [InSync]

theorem InSync.next (hq : q ≠ q') (h : InSync p p') (c : Char) (s s' : Text) :
    InSync (p.next q c s) (p'.next q' c s') := by
  have hm : q.mark ≠ q'.mark := fun hm ↦ hq (Quote.mark_injective hm)
  have hb := q.mark_ne_backslash
  have hb' := q'.mark_ne_backslash
  -- A quote that opens a literal for one of the passes ends a unit for the other.
  cases p <;> cases p' <;> simp only [Place.next] <;> grind [InSync, Place.isTaken]

def behind (insert : Text) (p' : Place) (c : Char) : Text :=
  if p'.finds c then insert else []

theorem landing_insertion_succ {c : Char} {s : Text} (i : Nat) :
    Text.landing (insertion q insert p (c :: s)) (i + 1) =
      (behind insert p c).length + Text.landing (insertion q insert (p.next q c s) s) i + 1 := by
  rw [Text.landing_succ, insertion_zero, insertion_succ, behind]

theorem Follows.code (q q' : Quote) (hm : q.mark ∉ insert) :
    Follows q q' insert .code .code := by
  by_cases hq : q = q'
  · exact .inl ⟨hq, rfl⟩
  · exact .inr ⟨hq, hm, InSync.refl .code⟩

theorem Follows.inSync (h : Follows q q' insert p p') : InSync p p' := by
  rcases h with ⟨-, rfl⟩ | ⟨-, -, h⟩
  · exact .refl p
  · exact h

theorem Follows.next (h : Follows q q' insert p p') (c : Char) (s : Text) :
    Follows q q' insert (p.next q c s) (p'.next q' c s) := by
  rcases h with ⟨rfl, rfl⟩ | ⟨hq, hm, h⟩
  · exact .inl ⟨rfl, rfl⟩
  · exact .inr ⟨hq, hm, h.next hq c s s⟩

theorem Follows.mark_not_mem (h : Follows q q' insert .code p') {c : Char}
    (hf : p'.finds c = true) : q.mark ∉ insert := by
  rcases h with ⟨-, rfl⟩ | ⟨-, hm, -⟩
  · cases hf
  · exact hm

theorem Follows.next_behind (h : Follows q q' insert p p') (hi : Body q insert)
    (c : Char) (s t : Text) (ht : t = pass q' insert (p'.next q' c s) s) :
    p.next q c (behind insert p' c ++ t) = p.next q c s ∧
      lettersFrom q (p.next q c s) (behind insert p' c ++ t) =
        (lettersFrom q (p.next q c s) t).map ((behind insert p' c).length + ·) := by
  cases hf : p'.finds c with
  | false =>
    have hx : behind insert p' c = [] := by rw [behind, hf, if_neg Bool.false_ne_true]
    refine ⟨?_, by simp [hx]⟩
    cases p with
    | code =>
      by_cases hc : c = q.mark
      · subst hc
        have hn := Place.isTaken_next q' q.mark_ne_backslash p' s
        rw [hx, List.nil_append, Place.next, Place.next, ht, closes_pass hi hn]
      · rw [Place.next_code hc, Place.next_code hc]
    | body found => rfl
    | taken found => rfl
  | true =>
    have hx : behind insert p' c = insert := by rw [behind, hf, if_pos rfl]
    have hs := h.inSync
    have hp' : p' = .body false ∧ c.isAlpha = true := by
      cases p' with
      | code | taken => simp [Place.finds] at hf
      | body found => cases found <;> simp_all [Place.finds]
    obtain ⟨rfl, ha⟩ := hp'
    have hc : c ≠ q.mark := ne_of_isAlpha ha q.mark_not_alpha
    have hn : c ≠ '\\' := ne_of_isAlpha ha backslash_not_alpha
    rw [hx]
    -- In code no quote comes in; in a literal its first letter has gone by with `c`.
    cases p with
    | code =>
      rw [Place.next_code hc, Place.next_code hc]
      exact ⟨rfl, lettersFrom_code (h.mark_not_mem hf) t⟩
    | body found =>
      rw [Place.next_body hc hn, Place.next_body hc hn, ha, Bool.or_true]
      exact ⟨rfl, lettersFrom_found hi t⟩
    | taken found => simp [InSync, Place.isTaken] at hs

/-- Behind another pass, a pass finds the letters that it finds in the text itself. -/
theorem Follows.lettersFrom_pass (h : Follows q q' insert p p') (hi : Body q insert) (s : Text) :
    lettersFrom q p (pass q' insert p' s) =
      (lettersFrom q p s).map (Text.landing (insertion q' insert p' s)) := by
  induction s generalizing p p' with
  | nil => rfl
  | cons c s ih =>
    obtain ⟨hn, hl⟩ := h.next_behind hi c s _ rfl
    have hs := ih (h.next c s)
    have hz : (if p.finds c then [0] else []).map
        (Text.landing (insertion q' insert p' (c :: s))) = if p.finds c then [0] else [] := by
      split <;> rfl
    have hstep (i : Nat) : Text.landing (insertion q' insert p' (c :: s)) (1 + i) =
        1 + ((behind insert p' c).length +
          Text.landing (insertion q' insert (p'.next q' c s) s) i) := by
      rw [Nat.add_comm 1 i, landing_insertion_succ, Nat.add_comm 1]
    have hc : lettersFrom q p (c :: s) =
        (if p.finds c then [0] else []) ++ (lettersFrom q (p.next q c s) s).map (1 + ·) := rfl
    rw [pass_cons, ← behind, lettersFrom, hn, hl, hs, hc, List.map_append, hz]
    simp only [List.map_map, Function.comp_def, hstep]

/-- Two passes one behind the other insert what each inserts into the text itself; behind a common
letter the later insertion comes first. -/
theorem Follows.pass_pass (h : Follows q q' insert p p') (hi : Body q insert) (x s : Text) :
    pass q x p (pass q' insert p' s) =
      s.insertBehind fun i ↦ insertion q x p s i ++ insertion q' insert p' s i := by
  induction s generalizing p p' with
  | nil => rfl
  | cons c s ih =>
    obtain ⟨hn, hl⟩ := h.next_behind hi c s _ rfl
    have hs := ih (h.next c s)
    have hsucc : (fun i ↦ insertion q x p (c :: s) (i + 1) ++
        insertion q' insert p' (c :: s) (i + 1)) =
        fun i ↦ insertion q x (p.next q c s) s i ++ insertion q' insert (p'.next q' c s) s i := by
      funext i
      rw [← insertion_succ, ← insertion_succ]
    rw [pass_cons, ← behind, pass_cons, hn, pass_append hl, hs, Text.insertBehind, hsucc,
      insertion_zero, insertion_zero, List.append_assoc]
    rfl

theorem InSync.lettersFrom_pass (h : InSync p p') (hq : q ≠ q') (hi : Body q insert)
    (hm : q.mark ∉ insert) (s : Text) :
    lettersFrom q p (pass q' insert p' s) =
      (lettersFrom q p s).map (Text.landing (insertion q' insert p' s)) :=
  Follows.lettersFrom_pass (.inr ⟨hq, hm, h⟩) hi s

theorem InSync.pass_pass (h : InSync p p') (hq : q ≠ q') (hi : Body q insert)
    (hm : q.mark ∉ insert) (x s : Text) :
    pass q x p (pass q' insert p' s) =
      s.insertBehind fun i ↦ insertion q x p s i ++ insertion q' insert p' s i :=
  Follows.pass_pass (.inr ⟨hq, hm, h⟩) hi x s

/-- A second pass for the same quote puts its text between the letter and what stands there. -/
theorem pass_pass_self (hi : Body q insert) (p : Place) (x s : Text) :
    pass q x p (pass q insert p s) = pass q (x ++ insert) p s := by
  rw [Follows.pass_pass (.inl ⟨rfl, rfl⟩) hi, pass]
  congr 1
  funext i
  rw [insertion, insertion, insertion]
  split <;> rfl

end Literal

end LiteralPatch
