import LiteralPatch.CommandLine.Arguments

namespace LiteralPatch

namespace Arguments

def Has (a : Arguments) : ValueOption ⊕ Flag → Prop
  | .inl .whitelist => a.whitelist.isSome = true
  | .inl .root => a.root.isSome = true
  | .inl .letters => a.anchor.isSome = true
  | .inl .paren => a.extent.isSome = true
  | .inr .dryRun => a.dryRun = true
  | .inr .json => a.json = true
  | .inr .verbose => 0 < a.verbosity
  | .inr .version | .inr .help => False

def InShort (o : ValueOption ⊕ Flag) (letters : List Char) : Prop :=
  ∃ c ∈ letters, (shortFlag? c).map .inr = some o

def Names (o : ValueOption ⊕ Flag) : Text → Prop
  | '-' :: '-' :: body => option? (body.takeWhile (· ≠ '=')) = some o
  | '-' :: letters => InShort o letters
  | _ => False

variable {a a' : Arguments} {o : ValueOption ⊕ Flag} {name value argument : Text}
  {env : Environment} {arguments : List Text}

theorem not_has_start (o : ValueOption ⊕ Flag) : ¬({} : Arguments).Has o := by
  rcases o with (_ | _ | _ | _) | (_ | _ | _ | _ | _) <;> simp [Has]

theorem has_set {option : ValueOption} (h : a.set name value option = .ok a') :
    a'.Has o ↔ a.Has o ∨ o = .inl option := by
  cases option <;> simp only [set] at h <;> split at h <;> try split at h
  all_goals
    cases h
  all_goals
    rcases o with (_ | _ | _ | _) | (_ | _ | _ | _ | _) <;> simp [Has]

theorem has_raise {flag : Flag} (h : a.raise name flag = .ok a') :
    a'.Has o ↔ a.Has o ∨ o = .inr flag := by
  cases flag <;> simp only [raise] at h <;> try split at h
  all_goals
    cases h
  all_goals
    rcases o with (_ | _ | _ | _) | (_ | _ | _ | _ | _) <;> simp [Has]

theorem inShort_nil : ¬InShort o [] := by
  simp [InShort]

theorem inShort_cons {c : Char} {cs : List Char} {flag : Flag} (h : shortFlag? c = some flag) :
    InShort o (c :: cs) ↔ o = .inr flag ∨ InShort o cs := by
  simp [InShort, h, eq_comm]

theorem has_raiseAll {letters : List Char} (h : a.raiseAll letters = .ok a') :
    a'.Has o ↔ a.Has o ∨ InShort o letters := by
  induction letters generalizing a with
  | nil =>
    cases h
    simp [inShort_nil]
  | cons c cs ih =>
    rw [raiseAll] at h
    split at h
    · cases h
    · rename_i flag hc
      split at h
      · rename_i b hb
        rw [ih h, has_raise hb, inShort_cons hc, or_assoc]
      · cases h

theorem names_long {o' : ValueOption ⊕ Flag} {body : Text}
    (h : option? (body.takeWhile (· ≠ '=')) = some o') :
    Names o ('-' :: '-' :: body) ↔ o = o' := by
  rw [Names, h, Option.some.injEq, eq_comm]

theorem names_short {c : Char} (hc : c ≠ '-') (cs : List Char) :
    Names o ('-' :: c :: cs) ↔ InShort o (c :: cs) := by
  rw [Names]
  rintro body ⟨⟩
  exact hc rfl

/-- What is taken for the value of an option names none. -/
theorem not_names_of_isValue (h : isValue argument = true) : ¬Names o argument := by
  simp only [isValue, Bool.or_eq_true, decide_eq_true_eq, bne_iff_ne] at h
  rcases h with rfl | h
  · exact inShort_nil
  · rw [Names]
    · exact id
    all_goals
      rintro _ rfl
      exact h rfl

theorem has_readAfter (h : a.readAfter arguments = .ok a') :
    a'.Has o ↔ a.Has o ∨ ∃ argument ∈ arguments, Names o argument := by
  fun_induction readAfter a arguments with
  | case1 a =>
    cases h
    simp
  | case2 a =>
    cases h
    simp [Names, option?]
  | case5 a body rest hb name shown flag hd ho b hr ih =>
    simp only [ih h, has_raise hr, List.mem_cons, exists_eq_or_imp, names_long ho, or_assoc]
  | case8 a body rest hb name shown option _ value hd ho b hs ih =>
    simp only [ih h, has_set hs, List.mem_cons, exists_eq_or_imp, names_long ho, or_assoc]
  | case11 a body hb name shown option hd ho value rest hv b hs ih =>
    simp only [ih h, has_set hs, List.mem_cons, exists_eq_or_imp, names_long ho, or_assoc,
      not_names_of_isValue hv, false_or]
  | case14 a c cs rest _ hc b hr ih =>
    simp only [ih h, has_raiseAll hr, List.mem_cons, exists_eq_or_imp, names_short hc, or_assoc]
  | _ => cases h

theorem has_readAfter_start (h : ({} : Arguments).readAfter arguments = .ok a') :
    a'.Has o ↔ ∃ argument ∈ arguments, Names o argument := by
  rw [has_readAfter h, or_iff_right (not_has_start o)]

theorem has_complete (h : a.complete env = .ok a') :
    a'.Has o ↔ a.Has o ∨ o = .inl .whitelist ∧ env.whitelist.isSome = true ∨
      o = .inl .root ∧ env.root.isSome = true := by
  have hfill : { a with whitelist := a.whitelist <|> env.whitelist }.Has o ↔
      a.Has o ∨ o = .inl .whitelist ∧ env.whitelist.isSome = true := by
    rcases o with (_ | _ | _ | _) | (_ | _ | _ | _ | _) <;> simp [Has]
  rw [complete] at h
  split at h
  · rename_i root hroot
    rw [has_set h, hfill, hroot, or_assoc]
    simp
  · rename_i hroot
    cases h
    rw [hfill, ← or_assoc, iff_comm, or_iff_left_iff_imp]
    rintro ⟨rfl, he⟩
    obtain ⟨root, he⟩ := Option.isSome_iff_exists.1 he
    -- The line gives a root itself.
    exact .inl (Option.isSome_iff_ne_none.2 fun ha ↦ hroot root ha he)

theorem has_read (h : read arguments env = .ok a) :
    a.Has o ↔ (∃ argument ∈ arguments, Names o argument) ∨
      o = .inl .whitelist ∧ env.whitelist.isSome = true ∨
      o = .inl .root ∧ env.root.isSome = true := by
  rw [read] at h
  split at h
  · rename_i b hb
    rw [has_complete h, has_readAfter_start hb]
  · cases h

end Arguments

end LiteralPatch
