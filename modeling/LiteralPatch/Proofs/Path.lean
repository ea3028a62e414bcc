import LiteralPatch.Path

namespace LiteralPatch

/-- What an entry of a directory can be called. -/
structure IsName (s : Text) : Prop where
  ne_nil : s ≠ []
  ne_dot : s ≠ ['.']
  ne_dots : s ≠ ['.', '.']
  noSlash : '/' ∉ s
  noNul : '\x00' ∉ s

instance (s : Text) : Decidable (IsName s) :=
  decidable_of_iff (s ≠ [] ∧ s ≠ ['.'] ∧ s ≠ ['.', '.'] ∧ '/' ∉ s ∧ '\x00' ∉ s)
    ⟨fun ⟨h, h', h'', hs, hn⟩ ↦ ⟨h, h', h'', hs, hn⟩,
      fun h ↦ ⟨h.ne_nil, h.ne_dot, h.ne_dots, h.noSlash, h.noNul⟩⟩

namespace Path

def below (dir : Text) (names : List Text) : Text := names.foldl join dir

def stem (dir : Text) : List Text :=
  if dir.getLast? = some '/' then (dir.splitOn '/').dropLast else dir.splitOn '/'

variable {dir name : Text} {names names' : List Text}

theorem splitOn_eq_stem (h : dir.getLast? = some '/') : dir.splitOn '/' = stem dir ++ [[]] := by
  obtain ⟨a, rfl⟩ := List.getLast?_eq_some_iff.1 h
  have hs : (a ++ ['/']).splitOn '/' = a.splitOn '/' ++ [[]] := List.splitOn_append_cons_self a []
  rw [stem, if_pos h, hs, List.dropLast_concat]

theorem splitOn_eq_stem_of_ne (h : dir.getLast? ≠ some '/') : dir.splitOn '/' = stem dir := by
  rw [stem, if_neg h]

theorem splitOn_join (h : '/' ∉ name) : (join dir name).splitOn '/' = stem dir ++ [name] := by
  rw [join]
  by_cases hd : dir.getLast? = some '/'
  · obtain ⟨a, rfl⟩ := List.getLast?_eq_some_iff.1 hd
    have hs : (a ++ ['/'] ++ name).splitOn '/' = a.splitOn '/' ++ name.splitOn '/' := by
      rw [List.append_assoc]
      exact List.splitOn_append_cons_self a name
    have hstem : (a ++ ['/']).splitOn '/' = a.splitOn '/' ++ [[]] :=
      List.splitOn_append_cons_self a []
    rw [splitOn_eq_stem hd] at hstem
    rw [if_pos hd, hs, List.append_cancel_right hstem, List.splitOn_eq_singleton h]
  · rw [if_neg hd, List.splitOn_append_cons_self, splitOn_eq_stem_of_ne hd,
      List.splitOn_eq_singleton h]

theorem getLast?_join (hne : name ≠ []) (h : '/' ∉ name) : (join dir name).getLast? ≠ some '/' := by
  have hl : (join dir name).getLast? = some (name.getLast hne) := by
    rw [join]
    split <;> simp [List.getLast?_append, List.getLast?_cons, List.getLast?_eq_some_getLast hne]
  rw [hl]
  intro hc
  exact h (Option.some.inj hc ▸ List.getLast_mem hne)

theorem stem_join (hne : name ≠ []) (h : '/' ∉ name) :
    stem (join dir name) = stem dir ++ [name] := by
  rw [← splitOn_eq_stem_of_ne (getLast?_join hne h), splitOn_join h]

theorem below_cons (dir name : Text) (names : List Text) :
    below dir (name :: names) = below (join dir name) names := rfl

theorem below_concat (dir name : Text) (names : List Text) :
    below dir (names ++ [name]) = join (below dir names) name := by
  simp [below]

theorem stem_below (h : ∀ name ∈ names, IsName name) :
    stem (below dir names) = stem dir ++ names := by
  induction names generalizing dir with
  | nil => simp [below]
  | cons name names ih =>
    rw [List.forall_mem_cons] at h
    rw [below_cons, ih h.2, stem_join h.1.ne_nil h.1.noSlash]
    exact List.append_assoc (stem dir) [name] names

theorem splitOn_below (h : ∀ name ∈ names, IsName name) (hne : names ≠ []) :
    (below dir names).splitOn '/' = stem dir ++ names := by
  obtain ⟨init, name, rfl⟩ : ∃ init name, names = init ++ [name] :=
    ⟨_, _, (List.dropLast_concat_getLast hne).symm⟩
  rw [List.forall_mem_append] at h
  rw [below_concat, splitOn_join (h.2 name List.mem_cons_self).noSlash, stem_below h.1]
  exact List.append_assoc (stem dir) init [name]

/-- No two ways down from a directory have the same path. -/
theorem below_injective (h : ∀ name ∈ names, IsName name) (h' : ∀ name ∈ names', IsName name)
    (he : below dir names = below dir names') : names = names' := by
  have hs := congrArg stem he
  rw [stem_below h, stem_below h'] at hs
  exact List.append_cancel_left hs

theorem exists_below_cons (c : Char) (dir : Text) (names : List Text) :
    ∃ rest, below (c :: dir) names = c :: rest := by
  induction names generalizing dir with
  | nil => exact ⟨dir, rfl⟩
  | cons name names ih =>
    obtain ⟨dir', hj⟩ : ∃ dir', join (c :: dir) name = c :: dir' := by
      rw [join]
      split
      · exact ⟨dir ++ name, rfl⟩
      · exact ⟨dir ++ '/' :: name, rfl⟩
    rw [below_cons, hj]
    exact ih dir'

theorem nul_not_mem_below (hd : '\x00' ∉ dir) (h : ∀ name ∈ names, IsName name) :
    '\x00' ∉ below dir names := by
  induction names generalizing dir with
  | nil => exact hd
  | cons name names ih =>
    rw [List.forall_mem_cons] at h
    refine ih ?_ h.2
    rw [join]
    split <;> simp [hd, h.1.noNul]

end Path

end LiteralPatch
