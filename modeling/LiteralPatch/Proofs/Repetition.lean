import LiteralPatch.Proofs.Escape
import LiteralPatch.Proofs.Literal.Lockstep
import Mathlib.Logic.Function.Iterate

namespace LiteralPatch

namespace Whitelist

def repeated (w : Whitelist) (n : Nat) : Whitelist := ⟨(List.replicate n w.raw).flatten⟩

structure Plain (w : Whitelist) : Prop where
  mark_not_mem : ∀ q : Quote, q.mark ∉ w.raw
  newline_not_mem : '\n' ∉ w.raw

variable {w : Whitelist}

theorem Plain.repeated (hw : w.Plain) (n : Nat) : (w.repeated n).Plain := by
  have hsub {c : Char} (hc : c ∉ w.raw) : c ∉ (w.repeated n).raw := by
    intro hm
    obtain ⟨x, hx, hcx⟩ := List.mem_flatten.1 hm
    exact hc ((List.mem_replicate.1 hx).2 ▸ hcx)
  exact ⟨fun q ↦ hsub (hw.mark_not_mem q), hsub hw.newline_not_mem⟩

theorem Plain.body (hw : w.Plain) (q q' : Quote) : Literal.Body q (w.escaped q') :=
  q'.body_escape_of_not_mem (hw.mark_not_mem q) hw.newline_not_mem

theorem Plain.mark_not_mem_escaped (hw : w.Plain) (q q' : Quote) : q.mark ∉ w.escaped q' :=
  q'.not_mem_escape q.mark_ne_backslash (hw.mark_not_mem q)

theorem Plain.escaped_eq (hw : w.Plain) (q q' : Quote) : w.escaped q = w.escaped q' :=
  Quote.escape_eq_escape (hw.mark_not_mem q) (hw.mark_not_mem q')

theorem escaped_repeated (h : ¬(w.raw.getLast? = some '\\' ∧ w.raw.head? = some 'n')) (n : Nat)
    (q : Quote) : (w.repeated n).escaped q = (List.replicate n (w.escaped q)).flatten :=
  q.escape_flatten_replicate h n

end Whitelist

namespace Literal

variable {q q' : Quote} {x y : Text}

theorem length_letters_pass (hi : Body q x) (hm : q.mark ∉ x) (q' : Quote) (s : Text) :
    (letters q (pass q' x .code s)).length = (letters q s).length := by
  rw [letters_eq_lettersFrom, letters_eq_lettersFrom, (Follows.code q q' hm).lettersFrom_pass hi,
    List.length_map]

theorem pass_pass_comm (hi : Body q y) (hm : q.mark ∉ y) (hi' : Body q' x) (hm' : q'.mark ∉ x)
    (hxy : x ++ y = y ++ x) (s : Text) :
    pass q x .code (pass q' y .code s) = pass q' y .code (pass q x .code s) := by
  rw [(Follows.code q q' hm).pass_pass hi, (Follows.code q' q hm').pass_pass hi']
  congr 1
  funext i
  rw [insertion, insertion]
  split <;> split <;> simp [hxy]

end Literal

namespace Rule

open Literal Whitelist

variable {w : Whitelist}

theorem hits_applyAll_both (hw : w.Plain) (s : Text) :
    (applyAll (both w .letter) s).hits =
      (letters .double s).length + (letters .single s).length := by
  rw [applyAll_both_letter]
  simp only [length_letters_pass (hw.body _ _) (hw.mark_not_mem_escaped _ _)]

theorem hits_applyAll_applyAll {w' : Whitelist} (hw : w.Plain) (hw' : w'.Plain) (s : Text) :
    (applyAll (both w .letter) (applyAll (both w' .letter) s).content).hits =
      (applyAll (both w .letter) s).hits := by
  rw [hits_applyAll_both hw, hits_applyAll_both hw, applyAll_both_letter]
  simp only [length_letters_pass (hw'.body _ _) (hw'.mark_not_mem_escaped _ _)]

/-- One more run adds one more copy everywhere. -/
theorem content_applyAll_repeated (hw : w.Plain)
    (hs : ¬(w.raw.getLast? = some '\\' ∧ w.raw.head? = some 'n')) (n : Nat) (s : Text) :
    (applyAll (both w .letter) (applyAll (both (w.repeated n) .letter) s).content).content =
      (applyAll (both (w.repeated (n + 1)) .letter) s).content := by
  have hr := hw.repeated n
  have hfront (q : Quote) : w.escaped q ++ (w.repeated n).escaped q =
      (w.repeated (n + 1)).escaped q := by
    rw [escaped_repeated hs, escaped_repeated hs, List.replicate_succ, List.flatten_cons]
  have hback (q : Quote) : (w.repeated n).escaped q ++ w.escaped q =
      (w.repeated (n + 1)).escaped q := by
    rw [escaped_repeated hs, escaped_repeated hs, List.replicate_succ', List.flatten_concat]
  have hcomm : w.escaped .double ++ (w.repeated n).escaped .single =
      (w.repeated n).escaped .single ++ w.escaped .double := by
    rw [hr.escaped_eq .single .double, hfront, hback]
  simp only [applyAll_both_letter]
  -- The later pass for double quotes and the earlier one for single quotes change places.
  rw [pass_pass_comm (hr.body _ _) (hr.mark_not_mem_escaped _ _) (hw.body _ _)
    (hw.mark_not_mem_escaped _ _) hcomm, pass_pass_self (hr.body _ _), pass_pass_self (hr.body _ _),
    hfront, hfront]

/-- With a plain whitelist that does not join a backslash at its end to an n at its front, `n` runs
of the pair leave what one run with the whitelist written `n` times leaves, and each of them has the
same hits. -/
theorem applyAll_iterate (hw : w.Plain)
    (hs : ¬(w.raw.getLast? = some '\\' ∧ w.raw.head? = some 'n')) (n : Nat) (s : Text) :
    (fun t ↦ (applyAll (both w .letter) t).content)^[n] s =
        (applyAll (both (w.repeated n) .letter) s).content ∧
      ∀ k < n, (applyAll (both w .letter)
        ((fun t ↦ (applyAll (both w .letter) t).content)^[k] s)).hits =
          (applyAll (both w .letter) s).hits := by
  have hcontent (k : Nat) : (fun t ↦ (applyAll (both w .letter) t).content)^[k] s =
      (applyAll (both (w.repeated k) .letter) s).content := by
    induction k with
    | zero =>
      rw [Function.iterate_zero_apply, applyAll_both_letter]
      exact ((pass_empty .code _).trans (pass_empty .code s)).symm
    | succ k ih => rw [Function.iterate_succ_apply', ih, content_applyAll_repeated hw hs]
  refine ⟨hcontent n, fun k _ ↦ ?_⟩
  rw [hcontent, hits_applyAll_applyAll hw (hw.repeated k)]

theorem applyAll_iterate_backslash_n :
    Whitelist.Plain ⟨['\\', 'n']⟩ ∧
      (fun t ↦ (applyAll (both ⟨['\\', 'n']⟩ .letter) t).content)^[2]
          ['"', '\'', 'a', '"', '\''] =
        ['"', '\'', 'a', '\\', '\\', '\\', 'n', '\\', '\\', '\\', 'n', '\\', '\\', '\\', 'n',
          '\\', '\\', '\\', 'n', '"', '\''] ∧
      ∀ k < 2, (applyAll (both ⟨['\\', 'n']⟩ .letter)
        ((fun t ↦ (applyAll (both ⟨['\\', 'n']⟩ .letter) t).content)^[k]
          ['"', '\'', 'a', '"', '\''])).hits = 2 := by
  have hw : Whitelist.Plain ⟨['\\', 'n']⟩ := ⟨fun q ↦ by cases q <;> decide, by decide⟩
  have hout : (applyAll (both (Whitelist.repeated ⟨['\\', 'n']⟩ 2) .letter)
      ['"', '\'', 'a', '"', '\'']).content =
        ['"', '\'', 'a', '\\', '\\', '\\', 'n', '\\', '\\', '\\', 'n', '\\', '\\', '\\', 'n',
          '\\', '\\', '\\', 'n', '"', '\''] := by decide +kernel
  have hhits : (applyAll (both ⟨['\\', 'n']⟩ .letter) ['"', '\'', 'a', '"', '\'']).hits = 2 := by
    decide +kernel
  have h := applyAll_iterate hw (by decide) 2 ['"', '\'', 'a', '"', '\'']
  rw [hout, hhits] at h
  exact ⟨hw, h⟩

end Rule

end LiteralPatch
