import LiteralPatch.Proofs.LetterRange.Quoted
import LiteralPatch.Proofs.Literal.Pass

namespace LiteralPatch

/-- A text with a copy of `x` behind each of some positions, which go from left to right. -/
structure Text.PutBehind (x s : Text) (ps : List Nat) (out : Text) : Prop where
  content_eq : out = s.insertBehind fun i ↦ if i ∈ ps then x else []
  pairwise : ps.Pairwise (· < ·)
  lt_length : ∀ i ∈ ps, i < s.length

theorem Text.PutBehind.sublist {x s out : Text} {ps : List Nat} (h : PutBehind x s ps out) :
    s.Sublist out := by
  rw [h.content_eq]
  exact sublist_insertBehind _ s

theorem Matcher.InsertsAt.putBehind {α : Type} {m : Matcher α} {cut : α → Option Nat} {x : Text}
    {change : α → Option Text} (h : m.InsertsAt cut x change) (s : Text) :
    Text.PutBehind x s (m.points cut s) (m.replace change s).content := by
  refine ⟨h.content_replace s, h.pairwise_points s, fun i hi ↦ ?_⟩
  obtain ⟨y, a, r, n, rfl, hr, hn, rfl⟩ := m.exists_of_mem_points cut hi
  have hlt := (h a _ r hr).1 n hn
  simp only [List.length_append]
  omega

namespace LetterRange

def rangeEnd (k : Cut) : Option Nat := some ((k.before ++ k.range).length - 1)

variable {q : Char} {s r : Text} {k : Cut}

theorem range_mem_of_run (h : (matcher q).run s = some (k, r)) : k.range ∈ spellings := by
  change quoted? q s = some (k, r) at h
  cases s with
  | nil => cases h
  | cons c s =>
    rw [quoted?] at h
    split at h
    · obtain ⟨⟨k', r'⟩, hk, he⟩ := Option.map_eq_some_iff.1 h
      obtain ⟨rfl, -⟩ := Prod.mk.inj he
      exact (last?_eq_some hk).1
    · cases h

theorem length_range_pos (h : k.range ∈ spellings) : 0 < (k.before ++ k.range).length := by
  rw [List.length_append, length_of_mem_spellings h]
  omega

theorem insertsAt_range (q : Char) (insert : Text) :
    (matcher q).InsertsAt rangeEnd insert fun k ↦ some (Rule.insertInCut insert k) := by
  intro k s r hr
  have hpos := length_range_pos (range_mem_of_run hr)
  have hs : (matcher q).spell k = k.before ++ k.range ++ k.after := rfl
  constructor
  · intro n hn
    obtain rfl := Option.some.inj hn
    simp only [hs, List.length_append] at hpos ⊢
    omega
  · rw [rangeEnd, Option.map_some, Nat.sub_add_cancel hpos, hs, List.take_left, List.drop_left]
    rfl

end LetterRange

namespace Anchor

def points (q : Quote) (s : Text) : Anchor → List Nat
  | letter => Literal.letters q s
  | range => (LetterRange.matcher q.mark).points LetterRange.rangeEnd s

def EndsAt (s : Text) (i : Nat) : Anchor → Prop
  | letter => ∃ c, s[i]? = some c ∧ c.isAlpha = true
  | range => ∃ r ∈ LetterRange.spellings, r <:+ s.take (i + 1)

theorem endsAt_of_mem_points {q : Quote} {s : Text} {anchor : Anchor} {i : Nat}
    (h : i ∈ anchor.points q s) : anchor.EndsAt s i := by
  cases anchor with
  | letter =>
    rw [points, Literal.letters_eq_lettersFrom] at h
    exact Literal.exists_alpha_of_mem_lettersFrom h
  | range =>
    obtain ⟨x, k, r, n, rfl, hr, hn, rfl⟩ := Matcher.exists_of_mem_points _ _ h
    have hmem := LetterRange.range_mem_of_run hr
    have hpos := LetterRange.length_range_pos hmem
    obtain rfl : (k.before ++ k.range).length - 1 = n := Option.some.inj hn
    have hl : x.length + ((k.before ++ k.range).length - 1) + 1 =
        (x ++ (k.before ++ k.range)).length := by
      simp only [List.length_append] at hpos ⊢
      omega
    have hs : x ++ ((LetterRange.matcher q.mark).spell k ++ r) =
        x ++ (k.before ++ k.range) ++ (k.after ++ r) := by
      simp [LetterRange.matcher, LetterRange.Cut.spell]
    refine ⟨k.range, hmem, x ++ k.before, ?_⟩
    rw [hl, hs, List.take_left, List.append_assoc]

end Anchor

namespace Rule

/-- With either anchor a rule replaces matches, and each of them by a text with one more copy of the
insert in it at most. -/
theorem exists_insertsAt (rule : Rule) : ∃ (α : Type) (m : Matcher α) (cut : α → Option Nat)
    (change : α → Option Text), m.InsertsAt cut rule.insert change ∧
      rule.apply = m.replace change ∧ ∀ s, rule.anchor.points rule.quote s = m.points cut s := by
  obtain ⟨q, anchor, x⟩ := rule
  cases anchor with
  | letter => exact ⟨_, _, _, _, Literal.insertsAt_letter q x, rfl, fun _ ↦ rfl⟩
  | range => exact ⟨_, _, _, _, LetterRange.insertsAt_range q.mark x, rfl, fun _ ↦ rfl⟩

theorem putBehind_apply (rule : Rule) (s : Text) :
    Text.PutBehind rule.insert s (rule.anchor.points rule.quote s) (rule.apply s).content := by
  obtain ⟨_, m, cut, change, h, happly, hpoints⟩ := rule.exists_insertsAt
  rw [happly, hpoints]
  exact h.putBehind s

theorem hits_apply (rule : Rule) (s : Text) :
    (rule.apply s).hits = (rule.anchor.points rule.quote s).length := by
  obtain ⟨_, m, cut, change, h, happly, hpoints⟩ := rule.exists_insertsAt
  rw [happly, hpoints]
  exact h.hits_replace s

theorem countP_apply (P : Char → Bool) (rule : Rule) (s : Text) :
    (rule.apply s).content.countP P = s.countP P + (rule.apply s).hits * rule.insert.countP P := by
  obtain ⟨_, m, cut, change, h, happly, -⟩ := rule.exists_insertsAt
  rw [happly]
  exact h.countP_content_replace s

theorem length_apply (rule : Rule) (s : Text) :
    (rule.apply s).content.length = s.length + (rule.apply s).hits * rule.insert.length := by
  simpa using rule.countP_apply (fun _ ↦ true) s

theorem sublist_apply (rule : Rule) (s : Text) : s.Sublist (rule.apply s).content :=
  (rule.putBehind_apply s).sublist

theorem sublist_applyAll (rules : List Rule) (s : Text) :
    s.Sublist (applyAll rules s).content := by
  induction rules generalizing s with
  | nil => exact .refl s
  | cons rule rules ih => exact (rule.sublist_apply s).trans (ih _)

theorem length_applyAll_both (w : Whitelist) (anchor : Anchor) (s : Text) :
    (applyAll (both w anchor) s).content.length = s.length +
      ((ofWhitelist w anchor .double).apply s).hits * (w.escaped .double).length +
      ((ofWhitelist w anchor .single).apply
        ((ofWhitelist w anchor .double).apply s).content).hits * (w.escaped .single).length := by
  have hfirst := (ofWhitelist w anchor .double).length_apply s
  have hsecond := (ofWhitelist w anchor .single).length_apply
    ((ofWhitelist w anchor .double).apply s).content
  rw [hfirst] at hsecond
  exact hsecond

/-- The pair only inserts: the rule for double quotes puts its text behind positions of the source,
and the one for single quotes behind positions of what the first one left, each at the end of an
anchor. So nothing of the source is lost, and the hits tell how much longer the result is. -/
theorem applyAll_both_putBehind (w : Whitelist) (anchor : Anchor) (s : Text) :
    let mid := ((ofWhitelist w anchor .double).apply s).content
    let ps := anchor.points .double s
    let ps' := anchor.points .single mid
    let e := applyAll (both w anchor) s
    Text.PutBehind (w.escaped .double) s ps mid ∧ (∀ i ∈ ps, anchor.EndsAt s i) ∧
      Text.PutBehind (w.escaped .single) mid ps' e.content ∧ (∀ i ∈ ps', anchor.EndsAt mid i) ∧
      e.hits = ps.length + ps'.length ∧ s.Sublist e.content ∧
      e.content.length = s.length + ps.length * (w.escaped .double).length +
        ps'.length * (w.escaped .single).length := by
  intro mid ps ps' e
  have hhits : ((ofWhitelist w anchor .double).apply s).hits = ps.length := hits_apply _ s
  have hhits' : ((ofWhitelist w anchor .single).apply mid).hits = ps'.length := hits_apply _ mid
  refine ⟨(ofWhitelist w anchor .double).putBehind_apply s, fun i ↦ Anchor.endsAt_of_mem_points,
    (ofWhitelist w anchor .single).putBehind_apply mid, fun i ↦ Anchor.endsAt_of_mem_points, ?_,
    sublist_applyAll _ s, ?_⟩
  · exact congrArg₂ (· + ·) hhits hhits'
  · rw [← hhits, ← hhits']
    exact length_applyAll_both w anchor s

end Rule

end LiteralPatch
