import LiteralPatch.Proofs.FileSystem.Tree

namespace LiteralPatch

namespace FileSystem

def dirAt (fs : FileSystem) (loc : Location) : Prop :=
  (fs.top.at? loc).any Node.isDir = true

structure Names (step : Text) : Prop where
  not_stay : ¬(step = [] ∨ step = ['.'])
  not_up : step ≠ ['.', '.']
  fits : Utf8.size step ≤ nameLimit

/-- From the directory `here` the components lead to `loc` through so many links. -/
inductive Leads (fs : FileSystem) : Nat → Location → List Text → Location → Prop
  | done (here : Location) : Leads fs 0 here [] here
  | stay {k : Nat} {here loc : Location} {step : Text} {rest : List Text} (hd : fs.dirAt here)
      (hs : step = [] ∨ step = ['.']) (h : Leads fs k here rest loc) :
      Leads fs k here (step :: rest) loc
  | up {k : Nat} {here loc : Location} {rest : List Text} (hd : fs.dirAt here)
      (h : Leads fs k here.dropLast rest loc) : Leads fs k here (['.', '.'] :: rest) loc
  | enter {k : Nat} {here loc : Location} {step : Text} {rest : List Text} {n : Node}
      (hd : fs.dirAt here) (hs : Names step) (hn : fs.top.at? (here ++ [step]) = some n)
      (hl : ∀ target, n ≠ .link target) (h : Leads fs k (here ++ [step]) rest loc) :
      Leads fs k here (step :: rest) loc
  | jump {k : Nat} {here loc : Location} {step target : Text} {rest : List Text}
      (hd : fs.dirAt here) (hs : Names step)
      (hn : fs.top.at? (here ++ [step]) = some (.link target))
      (h : Leads fs k (if target.head? = some '/' then [] else here)
        (target.splitOn '/' ++ rest) loc) :
      Leads fs (k + 1) here (step :: rest) loc

variable {fs : FileSystem} {creating : Bool} {k links : Nat} {here loc : Location}
  {steps rest a b : List Text} {step path : Text}

theorem follow_named (hd : fs.dirAt here) (hs : Names step)
    (hc : (creating && !rest.isEmpty && rest.all List.isEmpty) = false) :
    fs.follow creating links here (step :: rest) =
      match fs.top.at? (here ++ [step]) with
      | none => if rest.isEmpty then .ok (.vacant here step) else .error .noEntry
      | some (.link target) =>
        match links with
        | 0 => .error .tooManyLinks
        | links + 1 =>
          fs.follow creating links (if target.head? = some '/' then [] else here)
            (target.splitOn '/' ++ rest)
      | some _ => fs.follow creating links (here ++ [step]) rest := by
  rw [follow, hd, if_neg (by decide), if_neg hs.not_stay, if_neg hs.not_up, hc,
    if_neg (by decide)]
  exact if_neg (Nat.not_lt.2 hs.fits)

theorem dirAt_of_not (h : ¬(!(fs.top.at? here).any Node.isDir) = true) : fs.dirAt here := by
  simpa [dirAt] using h

theorem leads_of_follow (h : fs.follow false links here steps = .ok (.found loc)) :
    ∃ k ≤ links, fs.Leads k here steps loc := by
  fun_induction fs.follow false links here steps with
  | case1 links here =>
    obtain rfl : here = loc := by simpa using h
    exact ⟨0, Nat.zero_le _, .done _⟩
  | case3 links here step rest hd hs ih =>
    obtain ⟨k, hk, hl⟩ := ih h
    exact ⟨k, hk, .stay (dirAt_of_not hd) hs hl⟩
  | case4 links here rest hd hs ih =>
    obtain ⟨k, hk, hl⟩ := ih h
    exact ⟨k, hk, .up (dirAt_of_not hd) hl⟩
  | case10 here step rest hd hs hu hc hl target ht links ih =>
    obtain ⟨k, hk, h⟩ := ih h
    exact ⟨k + 1, Nat.succ_le_succ hk,
      .jump (dirAt_of_not hd) ⟨hs, hu, Nat.not_lt.1 hl⟩ ht h⟩
  | case11 links here step rest hd hs hu hc hl m hm ht ih =>
    obtain ⟨k, hk, h⟩ := ih h
    exact ⟨k, hk, .enter (dirAt_of_not hd) ⟨hs, hu, Nat.not_lt.1 hl⟩ ht hm h⟩
  | case7 => simp at h
  | case2 | case5 | case6 | case8 | case9 => simp at h

theorem Leads.append {i j : Nat} {mid : Location} (ha : fs.Leads i here a mid)
    (hb : fs.Leads j mid b loc) : fs.Leads (i + j) here (a ++ b) loc := by
  induction ha with
  | done here => simpa using hb
  | stay hd hs h ih => exact .stay hd hs (ih hb)
  | up hd h ih => exact .up hd (ih hb)
  | enter hd hs hn hl h ih => exact .enter hd hs hn hl (ih hb)
  | @jump k here mid step target rest hd hs hn h ih =>
    rw [Nat.add_right_comm]
    refine .jump hd hs hn ?_
    exact List.append_assoc _ rest b ▸ ih hb

theorem Leads.split (h : fs.Leads k here (a ++ b) loc) :
    ∃ i j mid, i + j = k ∧ fs.Leads i here a mid ∧ fs.Leads j mid b loc := by
  generalize hs : a ++ b = steps at h
  induction h generalizing a with
  | done here =>
    obtain ⟨rfl, rfl⟩ := List.append_eq_nil_iff.1 hs
    exact ⟨0, 0, here, rfl, .done here, .done here⟩
  | @stay k here loc step rest hd hstep h ih =>
    cases a with
    | nil =>
      obtain rfl : b = _ := hs
      exact ⟨0, k, here, Nat.zero_add k, .done here, .stay hd hstep h⟩
    | cons c a =>
      obtain ⟨rfl, hrest⟩ := List.cons.inj hs
      obtain ⟨i, j, mid, hk, hi, hj⟩ := ih hrest
      exact ⟨i, j, mid, hk, .stay hd hstep hi, hj⟩
  | @up k here loc rest hd h ih =>
    cases a with
    | nil =>
      obtain rfl : b = _ := hs
      exact ⟨0, k, here, Nat.zero_add k, .done here, .up hd h⟩
    | cons c a =>
      obtain ⟨rfl, hrest⟩ := List.cons.inj hs
      obtain ⟨i, j, mid, hk, hi, hj⟩ := ih hrest
      exact ⟨i, j, mid, hk, .up hd hi, hj⟩
  | @enter k here loc step rest n hd hstep hn hl h ih =>
    cases a with
    | nil =>
      obtain rfl : b = _ := hs
      exact ⟨0, k, here, Nat.zero_add k, .done here, .enter hd hstep hn hl h⟩
    | cons c a =>
      obtain ⟨rfl, hrest⟩ := List.cons.inj hs
      obtain ⟨i, j, mid, hk, hi, hj⟩ := ih hrest
      exact ⟨i, j, mid, hk, .enter hd hstep hn hl hi, hj⟩
  | @jump k here loc step target rest hd hstep hn h ih =>
    cases a with
    | nil =>
      obtain rfl : b = _ := hs
      exact ⟨0, k + 1, here, Nat.zero_add _, .done here, .jump hd hstep hn h⟩
    | cons c a =>
      obtain ⟨rfl, hrest⟩ := List.cons.inj hs
      -- The components of the target come in front of what is left of the first part.
      obtain ⟨i, j, mid, hk, hi, hj⟩ := ih (a := target.splitOn '/' ++ a) (by
        rw [List.append_assoc]
        exact congrArg _ hrest)
      exact ⟨i + 1, j, mid, by omega, .jump hd hstep hn hi, hj⟩

/-- What stands before a slash is a directory. -/
theorem Leads.dirAt_of_empty (h : fs.Leads k here steps loc) (hne : steps ≠ [])
    (he : steps.all List.isEmpty = true) : fs.dirAt loc := by
  induction h with
  | done here => exact absurd rfl hne
  | @stay k here loc step rest hd hs h ih =>
    rw [List.all_cons, Bool.and_eq_true] at he
    cases rest with
    | nil =>
      cases h
      exact hd
    | cons c rest => exact ih (List.cons_ne_nil _ _) he.2
  | up hd h ih => simp at he
  | enter hd hs hn hl h ih =>
    rw [List.all_cons, Bool.and_eq_true] at he
    exact absurd (.inl (List.isEmpty_iff.1 he.1)) hs.not_stay
  | jump hd hs hn h ih =>
    rw [List.all_cons, Bool.and_eq_true] at he
    exact absurd (.inl (List.isEmpty_iff.1 he.1)) hs.not_stay

theorem Leads.no_slash_behind (h : fs.Leads k here (a ++ rest) loc)
    (hc : creating = true → ¬fs.dirAt loc) :
    (creating && !rest.isEmpty && rest.all List.isEmpty) = false := by
  rw [Bool.eq_false_iff]
  intro hr
  simp only [Bool.and_eq_true, Bool.not_eq_true', List.isEmpty_eq_false_iff] at hr
  obtain ⟨⟨hw, hne⟩, he⟩ := hr
  obtain ⟨i, j, mid, -, -, hb⟩ := h.split
  exact hc hw (hb.dirAt_of_empty hne he)

/-- A file is found for writing as it is for reading: no slash stands behind its name. -/
theorem Leads.follow (h : fs.Leads k here steps loc) (hk : k ≤ links)
    (hc : creating = true → ¬fs.dirAt loc) :
    fs.follow creating links here steps = .ok (.found loc) := by
  induction h generalizing links with
  | done here => rw [FileSystem.follow]
  | stay hd hs h ih =>
    rw [FileSystem.follow, hd, if_neg (by decide), if_pos hs]
    exact ih hk hc
  | up hd h ih =>
    rw [FileSystem.follow, hd, if_neg (by decide), if_neg (by decide), if_pos rfl]
    exact ih hk hc
  | @enter k here loc step rest n hd hs hn hl h ih =>
    rw [follow_named hd hs (Leads.no_slash_behind (a := []) h hc), hn]
    cases n with
    | file content => exact ih hk hc
    | link target => exact absurd rfl (hl target)
    | dir entries => exact ih hk hc
  | jump hd hs hn h ih =>
    rw [follow_named hd hs (h.no_slash_behind hc), hn]
    cases links with
    | zero => omega
    | succ links => exact ih (by omega) hc

theorem follow_eq_found_iff :
    fs.follow false links here steps = .ok (.found loc) ↔
      ∃ k ≤ links, fs.Leads k here steps loc := by
  constructor
  · exact leads_of_follow
  · rintro ⟨k, hk, h⟩
    exact h.follow hk fun hf ↦ absurd hf (by decide)

theorem Leads.unique {k' : Nat} {loc' : Location} (h : fs.Leads k here steps loc)
    (h' : fs.Leads k' here steps loc') : loc = loc' := by
  have hf := follow_eq_found_iff.2 ⟨k, Nat.le_max_left k k', h⟩
  have hf' := follow_eq_found_iff.2 ⟨k', Nat.le_max_right k k', h'⟩
  exact Place.found.inj (Except.ok.inj (hf.symm.trans hf'))

def LeadsTo (fs : FileSystem) (path : Text) (k : Nat) (loc : Location) : Prop :=
  fs.Leads k (fs.start path) (path.splitOn '/') loc

structure Admissible (path : Text) : Prop where
  noNul : '\x00' ∉ path
  ne_nil : path ≠ []
  short : Utf8.size path < pathLimit

theorem resolve_of_admissible (h : Admissible path) (creating : Bool) :
    fs.resolve creating path =
      fs.follow creating linkLimit (fs.start path) (path.splitOn '/') := by
  rw [resolve, if_neg (by simpa using h.noNul), if_neg h.ne_nil, if_neg (Nat.not_le.2 h.short)]

theorem admissible_of_resolve {place : Place} (h : fs.resolve creating path = .ok place) :
    Admissible path := by
  rw [resolve] at h
  split at h
  · cases h
  · next hn =>
    split at h
    · cases h
    · next he =>
      split at h
      · cases h
      · next hl => exact ⟨by simpa using hn, he, Nat.not_le.1 hl⟩

/-- The location of a path is where it leads to within the limits. -/
theorem locate_eq_ok_iff :
    fs.locate path = .ok loc ↔ Admissible path ∧ ∃ k ≤ linkLimit, fs.LeadsTo path k loc := by
  have hfound : fs.locate path = .ok loc ↔ fs.resolve false path = .ok (.found loc) := by
    rw [locate]
    cases fs.resolve false path with
    | error fault => simp
    | ok place => cases place <;> simp
  rw [hfound]
  constructor
  · intro h
    have hs := admissible_of_resolve h
    rw [resolve_of_admissible hs, follow_eq_found_iff] at h
    exact ⟨hs, h⟩
  · rintro ⟨hs, h⟩
    rw [resolve_of_admissible hs, follow_eq_found_iff]
    exact h

theorem resolve_creating (h : fs.locate path = .ok loc) (hd : ¬fs.dirAt loc) :
    fs.resolve true path = .ok (.found loc) := by
  obtain ⟨hs, k, hk, hl⟩ := locate_eq_ok_iff.1 h
  rw [resolve_of_admissible hs]
  exact Leads.follow hl hk fun _ ↦ hd

end FileSystem

end LiteralPatch
