import LiteralPatch.Proofs.Literal.Units
import LiteralPatch.Proofs.Scan
import LiteralPatch.Rule

namespace LiteralPatch

namespace Literal

def closes (q : Quote) (s : Text) : Bool := (close? q.mark s).isSome

/-- Where a pass stands: in code, between two units of a literal, or behind a backslash in it.
`found` tells that the first free letter has gone by. -/
inductive Place
  | code
  | body (found : Bool)
  | taken (found : Bool)
  deriving DecidableEq, Repr

namespace Place

def next (q : Quote) (c : Char) (s : Text) : Place → Place
  | code => if c = q.mark ∧ closes q s then body false else code
  | body found =>
    if c = q.mark then code
    else if c = '\\' then taken found
    else body (found || c.isAlpha)
  | taken found => body found

def finds (c : Char) : Place → Bool
  | body false => c.isAlpha
  | _ => false

def isTaken : Place → Bool
  | taken _ => true
  | _ => false

variable {q : Quote} {c : Char} {p : Place}

theorem finds_eq_false (hc : c.isAlpha = false) : p.finds c = false := by
  cases p with
  | code | taken => rfl
  | body found => cases found <;> simp [finds, hc]

theorem isAlpha_of_finds (h : p.finds c = true) : c.isAlpha = true := by
  cases hc : c.isAlpha with
  | true => rfl
  | false =>
    rw [finds_eq_false hc] at h
    exact h

theorem next_code (hc : c ≠ q.mark) (s : Text) : code.next q c s = code := by simp [next, hc]

theorem next_body (hc : c ≠ q.mark) (hn : c ≠ '\\') (found : Bool) (s : Text) :
    (body found).next q c s = body (found || c.isAlpha) := by
  rw [next, if_neg hc, if_neg hn]

theorem next_body_backslash (found : Bool) (s : Text) :
    (body found).next q '\\' s = taken found := by
  rw [next, if_neg q.mark_ne_backslash.symm, if_pos rfl]

theorem next_body_mark (found : Bool) (s : Text) : (body found).next q q.mark s = code := by
  rw [next, if_pos rfl]

theorem isTaken_next (q : Quote) (hc : c ≠ '\\') (p : Place) (s : Text) :
    (p.next q c s).isTaken = false := by
  cases p with
  | code => simp only [next]; split <;> rfl
  | body found => simp only [next, if_neg hc]; split <;> rfl
  | taken found => rfl

theorem next_backslash (q : Quote) (c : Char) (hp : p.isTaken = false) (s : Text) :
    (p.next q '\\' (c :: s)).finds c = false ∧
      ((p.next q '\\' (c :: s)).next q c s).isTaken = false := by
  cases p with
  | code =>
    rw [next_code q.mark_ne_backslash.symm]
    refine ⟨rfl, ?_⟩
    simp only [next]
    split <;> rfl
  | body found =>
    rw [next_body_backslash]
    exact ⟨rfl, rfl⟩
  | taken found => simp [isTaken] at hp

end Place

def lettersFrom (q : Quote) : Place → Text → List Nat
  | _, [] => []
  | p, c :: s =>
    (if p.finds c then [0] else []) ++ (lettersFrom q (p.next q c s) s).map (1 + ·)

def insertion (q : Quote) (insert : Text) (p : Place) (s : Text) (i : Nat) : Text :=
  if i ∈ lettersFrom q p s then insert else []

def pass (q : Quote) (insert : Text) (p : Place) (s : Text) : Text :=
  s.insertBehind (insertion q insert p s)

variable {q q' : Quote} {p p' : Place} {insert : Text}

theorem zero_mem_lettersFrom {c : Char} {s : Text} :
    0 ∈ lettersFrom q p (c :: s) ↔ p.finds c = true := by
  rw [lettersFrom]
  split <;> simp_all

theorem succ_mem_lettersFrom {c : Char} {s : Text} {i : Nat} :
    i + 1 ∈ lettersFrom q p (c :: s) ↔ i ∈ lettersFrom q (p.next q c s) s := by
  rw [lettersFrom]
  split <;> simp [Nat.add_comm]

theorem exists_alpha_of_mem_lettersFrom {s : Text} {i : Nat} (h : i ∈ lettersFrom q p s) :
    ∃ c, s[i]? = some c ∧ c.isAlpha = true := by
  induction s generalizing p i with
  | nil => simp [lettersFrom] at h
  | cons c s ih =>
    cases i with
    | zero => exact ⟨c, rfl, Place.isAlpha_of_finds (zero_mem_lettersFrom.1 h)⟩
    | succ i => exact ih (succ_mem_lettersFrom.1 h)

theorem insertion_zero {c : Char} {s : Text} :
    insertion q insert p (c :: s) 0 = if p.finds c then insert else [] := by
  simp only [insertion, zero_mem_lettersFrom]

theorem insertion_succ {c : Char} {s : Text} :
    (fun i ↦ insertion q insert p (c :: s) (i + 1)) =
      insertion q insert (p.next q c s) s := by
  funext i
  simp only [insertion, succ_mem_lettersFrom]

theorem pass_nil : pass q insert p [] = [] := rfl

theorem pass_cons (c : Char) (s : Text) :
    pass q insert p (c :: s) =
      c :: ((if p.finds c then insert else []) ++ pass q insert (p.next q c s) s) := by
  rw [pass, Text.insertBehind, insertion_zero, insertion_succ]
  rfl

theorem pass_cons_of_not_alpha {c : Char} (hc : c.isAlpha = false) (s : Text) :
    pass q insert p (c :: s) = c :: pass q insert (p.next q c s) s := by
  simp [pass_cons, Place.finds_eq_false hc]

theorem pass_append {x s : Text}
    (h : lettersFrom q p (x ++ s) = (lettersFrom q p' s).map (x.length + ·)) :
    pass q insert p (x ++ s) = x ++ pass q insert p' s := by
  have hx : ∀ i < x.length, insertion q insert p (x ++ s) i = [] := by
    intro i hi
    rw [insertion, h, if_neg]
    rw [List.mem_map]
    rintro ⟨j, -, hj⟩
    omega
  have hs : (fun i ↦ insertion q insert p (x ++ s) (x.length + i)) = insertion q insert p' s := by
    funext i
    simp [insertion, h]
  rw [pass, Text.insertBehind_append, Text.insertBehind_eq_self hx, hs]
  rfl

theorem lettersFrom_step {c : Char} {x s : Text} (hc : p.finds c = false)
    (h : lettersFrom q (p.next q c (x ++ s)) (x ++ s) =
      (lettersFrom q p' s).map (x.length + ·)) :
    lettersFrom q p (c :: x ++ s) = (lettersFrom q p' s).map ((c :: x).length + ·) := by
  rw [List.cons_append, lettersFrom, hc, if_neg Bool.false_ne_true, List.nil_append, h,
    List.map_map]
  congr 1
  funext i
  simp only [Function.comp_apply, List.length_cons]
  omega

theorem lettersFrom_code {x : Text} (hx : q.mark ∉ x) (s : Text) :
    lettersFrom q .code (x ++ s) = (lettersFrom q .code s).map (x.length + ·) := by
  induction x with
  | nil => simp
  | cons c x ih =>
    have hc : c ≠ q.mark := fun h ↦ hx (h ▸ List.mem_cons_self)
    refine lettersFrom_step rfl ?_
    rw [Place.next_code hc]
    exact ih fun h ↦ hx (List.mem_cons_of_mem c h)

theorem lettersFrom_units {found : Bool} {b : Text}
    (hb : Units (fun c ↦ c ≠ q.mark ∧ (found = true ∨ c.isAlpha = false)) (fun _ ↦ True) b)
    (s : Text) : lettersFrom q (.body found) (b ++ s) =
      (lettersFrom q (.body found) s).map (b.length + ·) := by
  induction hb with
  | nil => simp
  | @bare c b hc hn _ ih =>
    have hf : (Place.body found).finds c = false := by
      rcases hc.2 with rfl | ha
      · rfl
      · exact Place.finds_eq_false ha
    have hnext : (found || c.isAlpha) = found := by
      rcases hc.2 with rfl | ha
      · rfl
      · rw [ha, Bool.or_false]
    refine lettersFrom_step hf ?_
    rw [Place.next_body hc.1 hn, hnext]
    exact ih
  | taken _ _ ih =>
    refine lettersFrom_step (Place.finds_eq_false backslash_not_alpha) (lettersFrom_step ?_ ?_)
    · rw [Place.next_body_backslash]
      rfl
    · rw [Place.next_body_backslash]
      exact ih

theorem lettersFrom_found {b : Text} (hb : Body q b) (s : Text) :
    lettersFrom q (.body true) (b ++ s) =
      (lettersFrom q (.body true) s).map (b.length + ·) :=
  lettersFrom_units (hb.mono (fun _ hc ↦ ⟨hc.1, .inl rfl⟩) fun _ _ ↦ trivial) s

theorem lettersFrom_letterless {b : Text} (hb : Letterless q b) (found : Bool) (s : Text) :
    lettersFrom q (.body found) (b ++ s) =
      (lettersFrom q (.body found) s).map (b.length + ·) :=
  lettersFrom_units (hb.mono (fun _ hc ↦ ⟨hc.1, .inr hc.2.2⟩) fun _ _ ↦ trivial) s

theorem closes_append {b : Text} (hb : Body q b) (s : Text) : closes q (b ++ s) = closes q s := by
  rw [closes, hb.close?_append, Option.isSome_map, closes]

theorem closes_cons {c : Char} (hc : c ≠ q.mark ∧ c ≠ '\n') (hn : c ≠ '\\') (s : Text) :
    closes q (c :: s) = closes q s := closes_append (.single hc hn) s

theorem pass_empty (p : Place) (s : Text) : pass q [] p s = s :=
  Text.insertBehind_eq_self fun _ _ ↦ ite_self _

theorem closes_pass_congr {x y : Text}
    (h : ∀ t t', closes q t = closes q t' → closes q (x ++ t) = closes q (y ++ t'))
    (hp : p.isTaken = false) (s : Text) :
    closes q (pass q' x p s) = closes q (pass q' y p s) := by
  have hb := backslash_not_alpha
  -- Along the units that the reader sees; a pass that starts between two of them never puts
  -- anything between a backslash and what it takes.
  fun_induction close? q.mark s generalizing p with
  | case1 => rfl
  | case2 =>
    rw [pass_cons_of_not_alpha hb, pass_cons_of_not_alpha hb]
    rfl
  | case3 s =>
    simp [pass_cons_of_not_alpha hb, pass_cons_of_not_alpha newline_not_alpha, closes, close?]
  | case4 c s hc ih =>
    obtain ⟨hf, ht⟩ := Place.next_backslash q' c hp s
    have hu : Body q ['\\', c] := .taken hc .nil
    have hcons (x : Text) : pass q' x p ('\\' :: c :: s) =
        ['\\', c] ++ pass q' x ((p.next q' '\\' (c :: s)).next q' c s) s := by
      rw [pass_cons_of_not_alpha hb, pass_cons, hf, if_neg Bool.false_ne_true]
      rfl
    rw [hcons, hcons, closes_append hu, closes_append hu, ih ht]
  | case5 s =>
    simp [pass_cons_of_not_alpha q.mark_not_alpha, closes, close?_mark]
  | case6 s =>
    simp [pass_cons_of_not_alpha newline_not_alpha, closes, close?, q.mark_ne_newline.symm]
  | case7 c s hn hn' hq hl ih =>
    have hc : c ≠ '\\' := ne_backslash_of_forall hn hn'
    have hs := ih (Place.isTaken_next q' hc p s)
    rw [pass_cons, pass_cons, closes_cons ⟨hq, hl⟩ hc, closes_cons ⟨hq, hl⟩ hc]
    split
    · exact h _ _ hs
    · exact hs

theorem closes_pass (hi : Body q insert) (hp : p.isTaken = false) (s : Text) :
    closes q (pass q' insert p s) = closes q s := by
  calc closes q (pass q' insert p s)
    _ = closes q (pass q' [] p s) :=
        closes_pass_congr (y := []) (fun t t' h ↦ (closes_append hi t).trans h) hp s
    _ = closes q s := by rw [pass_empty]

theorem cutAtLetter?_append {taken : Bool} {s : Text} {k : LetterCut}
    (h : cutAtLetter? taken s = some k) : k.before ++ k.letter :: k.after = s := by
  induction s generalizing taken k with
  | nil => simp [cutAtLetter?] at h
  | cons c s ih =>
    rw [cutAtLetter?] at h
    split at h
    · obtain rfl := Option.some.inj h
      rfl
    · obtain ⟨k', hk, rfl⟩ := Option.map_eq_some_iff.1 h
      exact congrArg (c :: ·) (ih hk)

theorem split?_append {s : Text} {k : LetterCut} (h : split? s = some k) :
    k.before ++ k.letter :: k.after = s := by
  cases s with
  | nil => simp [split?] at h
  | cons c s =>
    obtain ⟨k', hk, rfl⟩ := Option.map_eq_some_iff.1 h
    exact congrArg (c :: ·) (cutAtLetter?_append hk)

def letterAt (literal : Text) : Option Nat := (split? literal).map fun k ↦ k.before.length

def letters (q : Quote) (s : Text) : List Nat := (matcher q.mark).points letterAt s

theorem insertsAt_letter (q : Quote) (insert : Text) :
    (matcher q.mark).InsertsAt letterAt insert (Rule.insertInLiteral? insert) := by
  intro a s r _
  have ha : (matcher q.mark).spell a = a := rfl
  cases h : split? a with
  | none => simp [letterAt, Rule.insertInLiteral?, h]
  | some k =>
    have hk := split?_append h
    have hs : a = (k.before ++ [k.letter]) ++ k.after := by simp [hk]
    have hl : k.before.length + 1 = (k.before ++ [k.letter]).length := by simp
    refine ⟨fun n hn ↦ ?_, ?_⟩
    · obtain rfl : k.before.length = n := by simpa [letterAt, h] using hn
      rw [ha, hs]
      simp
    · simp only [letterAt, Rule.insertInLiteral?, h, Option.map_some, ha]
      rw [hl, hs, List.take_left, List.drop_left]
      simp

theorem lettersFrom_mark (f : Bool) (s : Text) :
    lettersFrom q (.body f) (q.mark :: s) = (lettersFrom q .code s).map (1 + ·) := by
  rw [lettersFrom, Place.finds_eq_false q.mark_not_alpha, Place.next_body_mark]
  rfl

theorem lettersFrom_body {b : Text} (hb : Body q b) (s : Text) :
    lettersFrom q (.body false) (b ++ q.mark :: s) =
      ((cutAtLetter? false (b ++ [q.mark])).map fun k ↦ k.before.length).toList ++
        (lettersFrom q .code s).map (b.length + 1 + ·) := by
  rcases hb.letterless_or_exists with h | ⟨x, c, y, rfl, hx, hc, hy⟩
  · rw [lettersFrom_letterless h, lettersFrom_mark, h.cutAtLetter?_append]
    simp [cutAtLetter?, q.mark_not_alpha, Function.comp_def, Nat.add_assoc]
  · have hq : c ≠ q.mark := ne_of_isAlpha hc q.mark_not_alpha
    have hn : c ≠ '\\' := ne_of_isAlpha hc backslash_not_alpha
    have hrest : lettersFrom q (.body false) (c :: (y ++ q.mark :: s)) =
        0 :: (lettersFrom q .code s).map (y.length + 2 + ·) := by
      rw [lettersFrom, Place.next_body hq hn, hc, Bool.or_true, lettersFrom_found hy,
        lettersFrom_mark, List.map_map, List.map_map]
      simp only [Place.finds, hc, if_true, List.singleton_append]
      congr 2
      funext i
      simp only [Function.comp_apply]
      omega
    rw [List.append_assoc, List.cons_append, lettersFrom_letterless hx, hrest, List.append_assoc,
      List.cons_append, hx.cutAtLetter?_append]
    have hl (i : Nat) : x.length + (y.length + 2 + i) = (x ++ c :: y).length + 1 + i := by
      simp only [List.length_append, List.length_cons]
      omega
    simp only [cutAtLetter?, hc, Bool.not_false, Bool.and_self, if_true, Option.map_some,
      Option.toList_some, List.append_nil, List.map_cons, List.map_map, Function.comp_def, hl]
    rfl

theorem letters_eq_lettersFrom (q : Quote) (s : Text) : letters q s = lettersFrom q .code s := by
  induction s using (matcher q.mark).induction with
  | nil => exact Matcher.points_nil _ _
  | plain c s hr ih =>
    have hn : Place.code.next q c s = .code := by
      rw [Place.next, if_neg]
      rintro ⟨rfl, hs⟩
      have hr' : read? q.mark (q.mark :: s) = none := hr
      rw [read?, if_pos rfl, Option.map_eq_none_iff] at hr'
      simp [closes, hr'] at hs
    rw [letters, Matcher.points_of_not_run _ _ hr, lettersFrom, hn, ← ih]
    rfl
  | span a s r hr ih =>
    obtain ⟨b, hb, rfl, rfl⟩ := read?_eq_some_iff.1 hr
    have hn : Place.code.next q q.mark (b ++ q.mark :: r) = .body false := by
      rw [Place.next, if_pos]
      exact ⟨rfl, by simp [closes, hb.close?_mark]⟩
    have hs : q.mark :: b ++ [q.mark] ++ r = q.mark :: (b ++ q.mark :: r) := by simp
    have ha : (letterAt (q.mark :: b ++ [q.mark])).toList =
        ((cutAtLetter? false (b ++ [q.mark])).map fun k ↦ k.before.length).toList.map
          (1 + ·) := by
      simp [letterAt, split?, Option.toList_map, Function.comp_def, Nat.add_comm]
    have hl (i : Nat) : ((matcher q.mark).spell (q.mark :: b ++ [q.mark])).length + i =
        1 + (b.length + 1 + i) := by
      change (q.mark :: b ++ [q.mark]).length + i = _
      simp only [List.cons_append, List.length_cons, List.length_append, List.length_nil]
      omega
    rw [letters, Matcher.points_of_run _ _ hr, ← letters, ih, hs, lettersFrom, hn,
      lettersFrom_body hb, ha, List.map_append, List.map_map]
    simp only [hl]
    rfl

/-- The rule behind letters is a pass, and its hits are the letters found. -/
theorem apply_letter (q : Quote) (insert s : Text) :
    (Rule.mk q .letter insert).apply s = ⟨pass q insert .code s, (letters q s).length⟩ := by
  have h := insertsAt_letter q insert
  have hc : ((matcher q.mark).replace (Rule.insertInLiteral? insert) s).content =
      pass q insert .code s := by
    have hi : insertion q insert .code s = fun i ↦ if i ∈ letters q s then insert else [] := by
      funext i
      rw [insertion, letters_eq_lettersFrom]
    rw [h.content_replace, pass, hi]
    rfl
  have hh : ((matcher q.mark).replace (Rule.insertInLiteral? insert) s).hits =
      (letters q s).length := h.hits_replace s
  rw [← hc, ← hh]
  rfl

theorem applyAll_both_letter (w : Whitelist) (s : Text) :
    Rule.applyAll (Rule.both w .letter) s =
      ⟨pass .single (w.escaped .single) .code (pass .double (w.escaped .double) .code s),
        (letters .double s).length +
          (letters .single (pass .double (w.escaped .double) .code s)).length⟩ := by
  simp only [Rule.applyAll, Rule.both, Rule.ofWhitelist, Rule.applyEach, apply_letter,
    Rule.totalHits, List.foldr]
  rfl

end Literal

end LiteralPatch
