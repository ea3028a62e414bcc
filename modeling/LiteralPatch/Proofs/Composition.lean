import LiteralPatch.Proofs.Literal.Survival
import LiteralPatch.Proofs.Repetition

namespace LiteralPatch

namespace Literal

def InsertedInto (q : Quote) (x s out : Text) : Prop :=
  ∃ gs, List.Forall₂ (Segment.Rel (Inserted q x)) ((matcher q.mark).segments s) gs ∧
    out = gs.flatMap (Segment.spell id)

theorem insertedInto_apply (q : Quote) (x s : Text) :
    InsertedInto q x s ((Rule.mk q .letter x).apply s).content := by
  have happly (s : Text) : (Rule.mk q .letter x).apply s =
      (matcher q.mark).replace (Rule.insertInLiteral? x) s := rfl
  induction s using (matcher q.mark).induction with
  | nil =>
    rw [happly, Matcher.replace_nil]
    exact ⟨[], by rw [Matcher.segments_nil]; exact .nil, rfl⟩
  | plain c s hr ih =>
    obtain ⟨gs, hgs, hout⟩ := ih
    refine ⟨.plain c :: gs, ?_, ?_⟩
    · rw [Matcher.segments_of_not_run _ hr]
      exact .cons (.plain c) hgs
    · rw [happly, Matcher.replace_of_not_run _ _ hr, ← happly, hout]
      rfl
  | span a s r hr ih =>
    obtain ⟨gs, hgs, hout⟩ := ih
    obtain ⟨b, hb, rfl, -⟩ := read?_eq_some_iff.1 hr
    have hgs' : List.Forall₂ (Segment.Rel (Inserted q x)) ((matcher q.mark).segments s)
        (.span ((Rule.insertInLiteral? x (q.mark :: b ++ [q.mark])).getD
          (q.mark :: b ++ [q.mark])) :: gs) := by
      rw [Matcher.segments_of_run _ hr]
      exact .cons (.span (inserted_getD x hb)) hgs
    refine ⟨_, hgs', ?_⟩
    rw [happly, Matcher.replace_of_run _ _ hr, ← happly, hout]
    rfl

end Literal

namespace Rule

open Literal

variable {w : Whitelist}

/-- Of two whitelists that one rule puts in, the later one stands next to the letter and the earlier
one behind it, as if the rule had put in both at once. The letters of the earlier one count for
nothing, so both times there are the same hits. -/
theorem apply_letter_apply_letter (q : Quote) (w w' : Whitelist) (hw : '\n' ∉ w.raw) (s : Text) :
    let first := (ofWhitelist w .letter q).apply s
    let second := (ofWhitelist w' .letter q).apply first.content
    InsertedInto q (w'.escaped q ++ w.escaped q) s second.content ∧
      second = (Rule.mk q .letter (w'.escaped q ++ w.escaped q)).apply s ∧
      second.hits = first.hits := by
  have hi : Body q (w.escaped q) := q.body_escape hw
  have hhits : (letters q (pass q (w.escaped q) .code s)).length = (letters q s).length := by
    rw [letters_eq_lettersFrom, letters_eq_lettersFrom,
      Follows.lettersFrom_pass (.inl ⟨rfl, rfl⟩) hi, List.length_map]
  have honce : (ofWhitelist w' .letter q).apply ((ofWhitelist w .letter q).apply s).content =
      (Rule.mk q .letter (w'.escaped q ++ w.escaped q)).apply s := by
    simp only [ofWhitelist, apply_letter, pass_pass_self hi, hhits]
  refine ⟨honce ▸ insertedInto_apply q _ s, honce, ?_⟩
  simp only [ofWhitelist, apply_letter, hhits]

theorem apply_letter_apply_letter_letter_quote :
    '\n' ∉ (['x', '"'] : Text) ∧
      (ofWhitelist ⟨['\n']⟩ .letter .double).apply
        ((ofWhitelist ⟨['x', '"']⟩ .letter .double).apply
          ['"', '\\', 'n', 'a', '"']).content =
        ⟨['"', '\\', 'n', 'a', '\n', 'x', '\\', '"', '"'], 1⟩ := by
  have hw : '\n' ∉ (⟨['x', '"']⟩ : Whitelist).raw := by decide
  obtain ⟨-, honce, -⟩ :=
    apply_letter_apply_letter .double ⟨['x', '"']⟩ ⟨['\n']⟩ hw ['"', '\\', 'n', 'a', '"']
  exact ⟨hw, honce.trans (by decide +kernel)⟩

/-- With a plain whitelist the rules can be applied in the opposite order: the text that they leave
and the hits of each of them are the same. -/
theorem applyEach_both_reverse (hw : w.Plain) (s : Text) :
    applyEach (both w .letter).reverse s =
      ((applyEach (both w .letter) s).1, (applyEach (both w .letter) s).2.reverse) := by
  have hi (q q' : Quote) : Body q (w.escaped q') := hw.body q q'
  have hm (q q' : Quote) : q.mark ∉ w.escaped q' := hw.mark_not_mem_escaped q q'
  have hsame : w.escaped .double = w.escaped .single := hw.escaped_eq .double .single
  have hcontent :
      pass .double (w.escaped .double) .code (pass .single (w.escaped .single) .code s) =
        pass .single (w.escaped .single) .code (pass .double (w.escaped .double) .code s) :=
    pass_pass_comm (hi _ _) (hm _ _) (hi _ _) (hm _ _) (by rw [hsame]) s
  have hhits (q q' : Quote) : (letters q (pass q' (w.escaped q') .code s)).length =
      (letters q s).length := length_letters_pass (hi _ _) (hm _ _) q' s
  simp only [both, List.reverse_cons, List.reverse_nil, List.nil_append, List.cons_append,
    applyEach, ofWhitelist, apply_letter, hcontent, hhits]

theorem applyEach_both_reverse_backslash :
    Whitelist.Plain ⟨['\\']⟩ ∧
      applyEach (both ⟨['\\']⟩ .letter).reverse ['"', '\'', 'a', '"', 'b', '\'', '"'] =
        (['"', '\'', 'a', '\\', '\\', '\\', '\\', '"', 'b', '\'', '"'],
          [(.single, 1), (.double, 1)]) := by
  have hw : Whitelist.Plain ⟨['\\']⟩ := ⟨fun q ↦ by cases q <;> decide, by decide⟩
  exact ⟨hw, (applyEach_both_reverse hw _).trans (by decide +kernel)⟩

end Rule

end LiteralPatch
