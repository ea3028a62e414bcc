import LiteralPatch.Proofs.Literal.Lockstep

namespace LiteralPatch

namespace Literal

namespace Place

variable {q : Quote} {p r : Place} {c : Char}

def after (q : Quote) : Place → Text → Text → Place
  | p, [], _ => p
  | p, c :: x, t => after q (p.next q c (x ++ t)) x t

/-- The same place, but the first free letter may have gone by already. -/
def Ahead : Place → Place → Prop
  | code, code => True
  | body found, body found' | taken found, taken found' => found' = true → found = true
  | _, _ => False

theorem Ahead.refl (p : Place) : Ahead p p := by
  cases p <;> simp [Ahead]

theorem Ahead.finds (h : Ahead p r) (hp : p.finds c = true) : r.finds c = true := by
  cases p <;> cases r <;> grind [Ahead, Place.finds]

theorem Ahead.isTaken (h : Ahead p r) : p.isTaken = r.isTaken := by
  cases p <;> cases r <;> simp_all [Ahead, Place.isTaken]

theorem Ahead.next (h : Ahead p r) {s s' : Text} (hc : c = q.mark → closes q s = closes q s') :
    Ahead (p.next q c s) (r.next q c s') := by
  cases p <;> cases r <;> simp only [Place.next] <;> grind [Ahead]

theorem next_eq_self (hp : p.isTaken = false) (hc : c ≠ q.mark) (hn : c ≠ '\\')
    (ha : c.isAlpha = false) (s : Text) : p.next q c s = p := by
  cases p with
  | code => exact next_code hc s
  | body found => rw [next_body hc hn, ha, Bool.or_false]
  | taken found => simp [Place.isTaken] at hp

theorem Ahead.next_left (h : Ahead p r) (hp : p.isTaken = false) (hc : c ≠ q.mark)
    (hn : c ≠ '\\') (s : Text) : Ahead (p.next q c s) r := by
  cases p with
  | code =>
    rw [next_code hc]
    exact h
  | body found =>
    rw [next_body hc hn]
    cases r with
    | body found' =>
      intro hf
      rw [h hf, Bool.true_or]
    | code | taken => exact h
  | taken found => simp [Place.isTaken] at hp

theorem next_next_backslash (hp : p.isTaken = false) (hc : c ≠ q.mark) (s t : Text) :
    (p.next q '\\' s).next q c t = p := by
  cases p with
  | code => rw [next_code q.mark_ne_backslash.symm, next_code hc]
  | body found =>
    rw [next_body_backslash]
    rfl
  | taken found => simp [Place.isTaken] at hp

end Place

variable {q q' : Quote} {p r p' : Place} {x y : Text}

theorem add_mem_lettersFrom (x t : Text) (j : Nat) :
    x.length + j ∈ lettersFrom q p (x ++ t) ↔ j ∈ lettersFrom q (p.after q x t) t := by
  induction x generalizing p with
  | nil => simp [Place.after]
  | cons c x ih =>
    have hl : (c :: x).length + j = x.length + j + 1 := by
      rw [List.length_cons]
      omega
    rw [hl, List.cons_append, succ_mem_lettersFrom, ih, Place.after]

theorem closes_inline (hx : Inline q x) (t : Text) :
    closes q (x ++ t) = (decide (0 < x.count q.mark) || closes q t) := by
  induction hx with
  | nil => simp
  | @bare c b hc hn _ ih =>
    by_cases hm : c = q.mark
    · subst hm
      rw [List.cons_append, closes, close?_mark, List.count_cons_self]
      simp
    · rw [List.cons_append, closes_cons ⟨hm, hc⟩ hn, ih, List.count_cons_of_ne hm]
  | @taken c b hc _ ih =>
    have hu : Body q ['\\', c] := .taken hc.1 .nil
    have hs : '\\' :: c :: b ++ t = ['\\', c] ++ (b ++ t) := rfl
    rw [hs, closes_append hu, ih, List.count_cons_of_ne q.mark_ne_backslash.symm,
      List.count_cons_of_ne hc.2]

/-- Put behind a letter, `x` leaves a pass no letter to find that `y` does not leave. -/
structure Masks (q : Quote) (x y : Text) : Prop where
  closes_eq : ∀ t t', closes q t = closes q t' → closes q (x ++ t) = closes q (y ++ t')
  ahead : ∀ p r t t', Place.Ahead p r → p.isTaken = false → closes q t = closes q t' →
    Place.Ahead (p.after q x t) (r.after q y t') ∧ (p.after q x t).isTaken = false

theorem inline_replicate (q : Quote) (n : Nat) : Inline q (List.replicate n q.mark) := by
  induction n with
  | zero => exact .nil
  | succ n ih => exact .bare q.mark_ne_newline q.mark_ne_backslash ih

theorem closes_inline_replicate (hx : Inline q x) {t t' : Text} (h : closes q t = closes q t') :
    closes q (x ++ t) = closes q (List.replicate (x.count q.mark) q.mark ++ t') := by
  rw [closes_inline hx, closes_inline (inline_replicate q _), List.count_replicate_self, h]

theorem masks_replicate (hx : Inline q x) :
    Masks q x (List.replicate (x.count q.mark) q.mark) := by
  refine ⟨fun t t' ↦ closes_inline_replicate hx, ?_⟩
  induction hx with
  | nil => exact fun p r t t' h hp _ ↦ ⟨h, hp⟩
  | @bare c b hc hn hb ih =>
    intro p r t t' h hp ht
    have hp' : (p.next q c (b ++ t)).isTaken = false := Place.isTaken_next q hn p _
    by_cases hm : c = q.mark
    · subst hm
      rw [List.count_cons_self, List.replicate_succ]
      exact ih _ _ t t' (h.next fun _ ↦ closes_inline_replicate hb ht) hp' ht
    · rw [List.count_cons_of_ne hm]
      exact ih _ _ t t' (h.next_left hp hm hn _) hp' ht
  | @taken c b hc hb ih =>
    intro p r t t' h hp ht
    have hs : p.after q ('\\' :: c :: b) t = p.after q b t := by
      rw [Place.after, Place.after, Place.next_next_backslash hp hc.2]
    rw [hs, List.count_cons_of_ne q.mark_ne_backslash.symm, List.count_cons_of_ne hc.2]
    exact ih p r t t' h hp ht

theorem masks_replicate_append {d : Char} (hd : d ≠ q.mark ∧ d ≠ '\n') (hn : d ≠ '\\')
    (ha : d.isAlpha = false) (h : Masks q x x) (n : Nat) :
    Masks q x (List.replicate n d ++ x) := by
  induction n with
  | zero => exact h
  | succ n ih =>
    refine ⟨fun t t' ht ↦ ?_, fun p r t t' hp hr ht ↦ ?_⟩
    · rw [ih.closes_eq t t' ht]
      exact (closes_cons hd hn _).symm
    · have hs : r.after q (List.replicate (n + 1) d ++ x) t' =
          r.after q (List.replicate n d ++ x) t' := by
        rw [List.replicate_succ, List.cons_append, Place.after,
          Place.next_eq_self (hp.isTaken ▸ hr) hd.1 hn ha]
      rw [hs]
      exact ih.ahead p r t t' hp hr ht

theorem InSync.of_isTaken (hp : p.isTaken = false) (hp' : p'.isTaken = false) : InSync p p' := by
  cases p <;> cases p' <;> simp_all [InSync, Place.isTaken]

theorem landing_zero_mem {c : Char} {s t : Text} :
    Text.landing (insertion q' x p' s) 0 ∈ lettersFrom q p (c :: t) ↔ p.finds c = true :=
  zero_mem_lettersFrom

theorem landing_succ_mem {c : Char} {s : Text} {i : Nat} :
    Text.landing (insertion q' x p' (c :: s)) (i + 1) ∈ lettersFrom q p (pass q' x p' (c :: s)) ↔
      Text.landing (insertion q' x (p'.next q' c s) s) i ∈
        lettersFrom q (p.after q (c :: behind x p' c) (pass q' x (p'.next q' c s) s))
          (pass q' x (p'.next q' c s) s) := by
  rw [landing_insertion_succ, pass_cons, ← behind, succ_mem_lettersFrom, add_mem_lettersFrom,
    Place.after]

/-- With `x` in place of `y` a pass behind the one for `q'` finds no further letter of the text. -/
theorem Masks.mem_lettersFrom (h : Masks q x y) (hq : q ≠ q') (hp : Place.Ahead p r)
    (hs : InSync p p') {s : Text} {i : Nat}
    (hi : Text.landing (insertion q' x p' s) i ∈ lettersFrom q p (pass q' x p' s)) :
    Text.landing (insertion q' y p' s) i ∈ lettersFrom q r (pass q' y p' s) := by
  -- The pass behind `x` stays ahead of the one behind `y`, and both in step with the first.
  induction s generalizing p r p' i with
  | nil => simp [pass_nil, lettersFrom] at hi
  | cons c s ih =>
    cases i with
    | zero =>
      rw [pass_cons, landing_zero_mem] at hi ⊢
      exact hp.finds hi
    | succ i =>
      rw [landing_succ_mem] at hi ⊢
      have ht (hn : c ≠ '\\') : closes q (pass q' x (p'.next q' c s) s) =
          closes q (pass q' y (p'.next q' c s) s) :=
        closes_pass_congr h.closes_eq (Place.isTaken_next q' hn p' s) s
      cases hf : p'.finds c with
      | false =>
        have hb (x : Text) : behind x p' c = [] := by rw [behind, hf, if_neg Bool.false_ne_true]
        rw [hb] at hi ⊢
        refine ih (hp.next ?_) (hs.next hq c _ s) hi
        rintro rfl
        exact ht q.mark_ne_backslash
      | true =>
        have hb (x : Text) : behind x p' c = x := by rw [behind, hf, if_pos rfl]
        have ha : c.isAlpha = true := Place.isAlpha_of_finds hf
        have hc : c ≠ q.mark := ne_of_isAlpha ha q.mark_not_alpha
        have hn : c ≠ '\\' := ne_of_isAlpha ha backslash_not_alpha
        rw [hb] at hi ⊢
        obtain ⟨hahead, htaken⟩ := h.ahead (p.next q c (x ++ pass q' x (p'.next q' c s) s))
          (r.next q c (y ++ pass q' y (p'.next q' c s) s)) _ _
          (hp.next fun he ↦ absurd he hc) (Place.isTaken_next q hn p _) (ht hn)
        exact ih hahead (.of_isTaken htaken (Place.isTaken_next q' hn p' s)) hi

end Literal

end LiteralPatch
