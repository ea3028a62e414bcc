import LiteralPatch.Proofs.Declaration.Place
import LiteralPatch.Proofs.Escape

namespace LiteralPatch

namespace Declaration

def assigned (w : Whitelist) : Text := " = \"".toList ++ w.escaped .double ++ ['"']

def isClosed (l : Text) : Bool := (l.dropInfix? words).any (')' ∈ ·.2)

def setAcross (w : Whitelist) (l : Text) : Edit :=
  match l.dropInfix? words with
  | some (p, t) =>
    if ')' ∈ t then ⟨p ++ words ++ assigned w ++ ')' :: t.rtakeWhile (· ≠ ')'), 1⟩ else ⟨l, 0⟩
  | none => ⟨l, 0⟩

def setToEnd (w : Whitelist) (part : Text) : Edit :=
  match part.dropInfix? words with
  | some (p, _) => ⟨p ++ words ++ assigned w, 1⟩
  | none => ⟨part, 0⟩

/-- Sets the value in each part that a parenthesis closes. What comes behind the last one stays. -/
def setInParts (w : Whitelist) (l : Text) : Edit :=
  ((l.splitOn ')').dropLast.map (setToEnd w)).foldr (Edit.join ')')
    ⟨(l.splitOn ')').getLast (by simp), 0⟩

variable {s l p m q part : Text}

theorem withDefault_eq (w : Whitelist) : withDefault w = words ++ assigned w ++ [')'] := by
  simp [withDefault, assigned]

theorem count_newline_setDefault (extent : ParenExtent) (w : Whitelist) (s : Text) :
    (setDefault extent w s).content.count '\n' =
      s.count '\n' + (setDefault extent w s).hits * w.raw.count '\n' := by
  have hdefault : (withDefault w).count '\n' = w.raw.count '\n' := by
    have hopen : (words ++ " = \"".toList).count '\n' = 0 := by decide
    have hclose : "\")".toList.count '\n' = 0 := by decide
    rw [withDefault, List.count_append, List.count_append, hopen, hclose, Whitelist.escaped,
      Quote.count_escape _ (by decide), Nat.zero_add, Nat.add_zero]
  refine Matcher.countP_content_replace (fun a t r x hr hx ↦ ?_) s
  -- The span that goes has no line feed, so those of the value are all there are.
  have hspan : '\n' ∉ (matcher extent).spell a := by
    refine (lineLocal_matcher extent).onOneLine t a ?_
    rw [Matcher.segments_of_run _ hr]
    exact List.mem_cons_self
  obtain rfl := Option.some.inj hx
  change (withDefault w).count '\n' = ((matcher extent).spell a).count '\n' + _
  rw [List.count_eq_zero.2 hspan, hdefault, Nat.zero_add]

theorem hits_setAcross (w : Whitelist) (l : Text) :
    (setAcross w l).hits = if isClosed l then 1 else 0 := by
  rw [setAcross, isClosed]
  split
  · next p t h =>
    rw [h]
    split
    · next hm => rw [if_pos (by simpa using hm)]
    · next hm => rw [if_neg (by simpa using hm)]
  · next h => rw [h, if_neg (by simp)]

theorem setAcross_of_cut (w : Whitelist) (h : l.dropInfix? words = some (p, m ++ ')' :: q))
    (hq : ')' ∉ q) : setAcross w l = ⟨p ++ words ++ assigned w ++ ')' :: q, 1⟩ := by
  rw [setAcross, h]
  simp only [Text.rtakeWhile_append_cons m hq, List.mem_append, List.mem_cons, true_or, or_true,
    if_true]

theorem setDefault_greedy_line (w : Whitelist) (hl : '\n' ∉ l) :
    setDefault .greedy w l = setAcross w l := by
  cases hd : l.dropInfix? words with
  | none =>
    simp only [setAcross, hd]
    exact setDefault_of_not_isInfix w (Text.dropInfix?_eq_none_iff.1 hd)
  | some cut =>
    obtain ⟨p, t⟩ := cut
    by_cases ht : ')' ∈ t
    · obtain ⟨m, q, rfl, hq⟩ := Text.exists_last_of_mem ht
      rw [setDefault_of_cut? w hl hd (cut?_greedy m hq), setDefault_of_not_mem w hq,
        setAcross_of_cut w hd hq, withDefault_eq]
      simp
    · simp only [setAcross, hd, if_neg ht]
      exact setDefault_of_not_mem_behind w hd ht

/-- A text is edited up to its first parenthesis and behind it, each on its own. -/
theorem setDefault_first_append (w : Whitelist) (hp : ')' ∉ part) (hn : '\n' ∉ part)
    (hs : '\n' ∉ s) :
    setDefault .first w (part ++ ')' :: s) =
      (setToEnd w part).join ')' (setDefault .first w s) := by
  rw [setToEnd]
  split
  · next p t h =>
    obtain ⟨rfl, -⟩ := Text.dropInfix?_iff.1 h
    have ht : ')' ∉ t := fun hm ↦ hp (List.mem_append_right _ hm)
    have hd := Text.dropInfix?_append h (t ++ ')' :: s)
    rw [← List.append_assoc] at hd
    have hline : '\n' ∉ p ++ words ++ t ++ ')' :: s := by
      rw [List.mem_append, List.mem_cons, not_or, not_or]
      exact ⟨hn, by decide, hs⟩
    rw [setDefault_of_cut? w hline hd (cut?_first ht s), withDefault_eq, Edit.join]
    simp
  · next h =>
    have hi := Text.dropInfix?_eq_none_iff.1 h
    have hclose : (matcher .first).run (')' :: s) = none := run_of_not_isPrefix fun hw ↦
      absurd (List.cons_prefix_cons.1 hw).1 (by decide)
    rw [setDefault, Matcher.replace_append, Matcher.replace_of_not_run _ _ hclose, Edit.join,
      Nat.zero_add]
    · rfl
    · intro x y hxy _
      refine run_of_not_isPrefix fun hw ↦ hi ?_
      rw [hxy]
      exact (Text.prefix_of_prefix_append_cons (by decide) hw).isInfix.trans
        (List.suffix_append x y).isInfix

theorem setInParts_append (w : Whitelist) (hp : ')' ∉ part) (s : Text) :
    setInParts w (part ++ ')' :: s) = (setToEnd w part).join ')' (setInParts w s) := by
  have hne : s.splitOn ')' ≠ [] := by simp
  simp only [setInParts, List.splitOn_append_cons_self_of_not_mem hp,
    List.dropLast_cons_of_ne_nil hne, List.getLast_cons hne, List.map_cons, List.foldr_cons]

theorem setInParts_of_not_mem (w : Whitelist) (hp : ')' ∉ l) : setInParts w l = ⟨l, 0⟩ := by
  simp [setInParts, List.splitOn_eq_singleton hp]

theorem setDefault_first_line (w : Whitelist) (hl : '\n' ∉ l) :
    setDefault .first w l = setInParts w l := by
  induction l using Text.piece_induction ')' with
  | piece l hp => rw [setDefault_of_not_mem w hp, setInParts_of_not_mem w hp]
  | cons part s hp ih =>
    rw [List.mem_append, List.mem_cons, not_or, not_or] at hl
    rw [setDefault_first_append w hp hl.1 hl.2.2, setInParts_append w hp, ih hl.2.2]

theorem hits_setToEnd (w : Whitelist) (part : Text) :
    (setToEnd w part).hits = if words <:+: part then 1 else 0 := by
  rw [setToEnd]
  split
  · next p t h => rw [if_pos ⟨p, t, (Text.dropInfix?_iff.1 h).1.symm⟩]
  · next h => rw [if_neg (Text.dropInfix?_eq_none_iff.1 h)]

theorem hits_setInParts (w : Whitelist) (l : Text) :
    (setInParts w l).hits = (l.splitOn ')').dropLast.countP (words <:+: ·) := by
  induction l using Text.piece_induction ')' with
  | piece l hp =>
    rw [setInParts_of_not_mem w hp, List.splitOn_eq_singleton hp]
    rfl
  | cons part s hp ih =>
    have hne : s.splitOn ')' ≠ [] := by simp
    rw [setInParts_append w hp, Edit.join, ih, hits_setToEnd,
      List.splitOn_append_cons_self_of_not_mem hp, List.dropLast_cons_of_ne_nil hne,
      List.countP_cons, Nat.add_comm]
    simp only [decide_eq_true_eq]

theorem setDefault_append_newline (extent : ParenExtent) (w : Whitelist) (a b : Text) :
    setDefault extent w (a ++ '\n' :: b) =
      (setDefault extent w a).join '\n' (setDefault extent w b) :=
  (lineLocal_matcher extent).replace_append _ a b

theorem setDefault_eq_joinLines {extent : ParenExtent} {f : Text → Edit}
    (h : ∀ l, '\n' ∉ l → setDefault extent w l = f l) (s : Text) :
    setDefault extent w s = Edit.joinLines ((s.splitOn '\n').map f) := by
  rw [setDefault, (lineLocal_matcher extent).replace_eq_joinLines]
  congr 1
  exact List.map_congr_left fun l hl ↦ h l (Text.newline_not_mem_of_mem_splitOn hl)

/-- Through the last parenthesis each line is an edit of its own, from its first declaration on, and
the hits are the lines on which a parenthesis follows that declaration. -/
theorem setDefault_greedy_eq_joinLines (w : Whitelist) (s : Text) :
    setDefault .greedy w s = Edit.joinLines ((s.splitOn '\n').map (setAcross w)) ∧
      (setDefault .greedy w s).hits = (s.splitOn '\n').countP isClosed := by
  have he : setDefault .greedy w s = Edit.joinLines ((s.splitOn '\n').map (setAcross w)) :=
    setDefault_eq_joinLines (fun _ ↦ setDefault_greedy_line w) s
  exact ⟨he, (congrArg Edit.hits he).trans (Edit.hits_joinLines_map (hits_setAcross w) _)⟩

example : setAcross ⟨"$1".toList⟩ "F(string allowSpecialChars = \"\") => G(x);".toList =
    ⟨"F(string allowSpecialChars = \"$1\");".toList, 1⟩ := by cbv

/-- Through the first parenthesis each part of a line that a parenthesis closes is an edit of its
own, and the hits are those of these parts in which a declaration stands. -/
theorem setDefault_first_eq_joinLines (w : Whitelist) (s : Text) :
    setDefault .first w s = Edit.joinLines ((s.splitOn '\n').map (setInParts w)) ∧
      (setDefault .first w s).hits =
        ((s.splitOn '\n').flatMap fun l ↦ (l.splitOn ')').dropLast).countP (words <:+: ·) := by
  have he : setDefault .first w s = Edit.joinLines ((s.splitOn '\n').map (setInParts w)) :=
    setDefault_eq_joinLines (fun _ ↦ setDefault_first_line w) s
  refine ⟨he, (congrArg Edit.hits he).trans ?_⟩
  calc (Edit.joinLines ((s.splitOn '\n').map (setInParts w))).hits
      = (((s.splitOn '\n').map (setInParts w)).map Edit.hits).sum := rfl
    _ = ((s.splitOn '\n').map fun l ↦ (l.splitOn ')').dropLast.countP (words <:+: ·)).sum := by
      simp only [List.map_map, Function.comp_def, hits_setInParts]
    _ = _ := List.countP_flatMap.symm

example : setInParts ⟨"$1".toList⟩ "F(string allowSpecialChars = \"\") => G(x);".toList =
    ⟨"F(string allowSpecialChars = \"$1\") => G(x);".toList, 1⟩ := by cbv

end Declaration

end LiteralPatch
