import LiteralPatch.FileSystem.Resolve

namespace LiteralPatch

namespace Node

mutual

def skeleton : Node → Node
  | file _ => file []
  | link target => link target
  | dir entries => dir (skeletonBelow entries)

def skeletonBelow : List (Text × Node) → List (Text × Node)
  | [] => []
  | (name, n) :: entries => (name, n.skeleton) :: skeletonBelow entries

end

def content? : Node → Option Bytes
  | file content => some content
  | _ => none

variable {n m old new : Node} {loc : Location} {name : Text} {entries : List (Text × Node)}
  {b c : Bytes}

@[simp] theorem at?_nil (n : Node) : n.at? [] = some n := by cases n <;> rfl

theorem at?_cons_eq_some {rest : Location} (h : n.at? (name :: rest) = some m) :
    ∃ entries child, n = dir entries ∧ entries.lookup name = some child ∧
      child.at? rest = some m := by
  cases n with
  | file content => simp [at?] at h
  | link target => simp [at?] at h
  | dir entries =>
    obtain ⟨child, hl, hc⟩ := Option.bind_eq_some_iff.1 h
    exact ⟨entries, child, rfl, hl, hc⟩

theorem at?_append (n : Node) (loc rest : Location) :
    n.at? (loc ++ rest) = (n.at? loc).bind fun m ↦ m.at? rest := by
  induction loc generalizing n with
  | nil => simp
  | cons name loc ih =>
    cases n with
    | file content => rfl
    | link target => rfl
    | dir entries =>
      rw [List.cons_append, at?, at?]
      cases entries.lookup name with
      | none => rfl
      | some child => exact ih child

theorem content?_eq_some : n.content? = some b ↔ n = file b := by
  cases n <;> simp [content?]

@[simp] theorem isDir_skeleton (n : Node) : n.skeleton.isDir = n.isDir := by
  cases n <;> rfl

@[simp] theorem isFile_skeleton (n : Node) : n.skeleton.isFile = n.isFile := by
  cases n <;> rfl

theorem lookup_skeletonBelow (name : Text) (entries : List (Text × Node)) :
    (skeletonBelow entries).lookup name = (entries.lookup name).map skeleton := by
  induction entries with
  | nil => rfl
  | cons e entries ih =>
    obtain ⟨key, n⟩ := e
    rw [skeletonBelow, List.lookup_cons, List.lookup_cons, ih]
    cases name == key <;> rfl

theorem at?_skeleton (n : Node) (loc : Location) :
    n.skeleton.at? loc = (n.at? loc).map skeleton := by
  induction loc generalizing n with
  | nil => simp
  | cons name loc ih =>
    cases n with
    | file content => rfl
    | link target => rfl
    | dir entries =>
      rw [skeleton, at?, at?, lookup_skeletonBelow]
      cases entries.lookup name with
      | none => rfl
      | some child => exact ih child

theorem lookup_cons_ite (name key : Text) (n : Node) (entries : List (Text × Node)) :
    ((key, n) :: entries).lookup name = if name = key then some n else entries.lookup name := by
  by_cases h : name = key
  · simp [h]
  · rw [List.lookup_cons, beq_false_of_ne h, if_neg h]

theorem lookup_setEntry (name other : Text) (n : Node) (entries : List (Text × Node)) :
    (setEntry name n entries).lookup other =
      if other = name then some n else entries.lookup other := by
  induction entries with
  | nil => rw [setEntry, lookup_cons_ite]
  | cons e entries ih =>
    obtain ⟨key, m⟩ := e
    rw [setEntry, lookup_cons_ite]
    by_cases hk : key = name
    · rw [if_pos hk, lookup_cons_ite, hk]
      split <;> rfl
    · rw [if_neg hk, lookup_cons_ite, ih]
      by_cases ho : other = key
      · rw [if_pos ho, if_pos ho, if_neg (ho ▸ hk)]
      · rw [if_neg ho, if_neg ho]

theorem setEntry_eq_self (h : entries.lookup name = some n) :
    setEntry name n entries = entries := by
  induction entries with
  | nil => simp at h
  | cons e entries ih =>
    obtain ⟨key, m⟩ := e
    rw [lookup_cons_ite] at h
    rw [setEntry]
    by_cases hk : key = name
    · rw [if_pos hk.symm] at h
      rw [if_pos hk, hk, Option.some.inj h]
    · rw [if_neg (Ne.symm hk)] at h
      rw [if_neg hk, ih h]

theorem skeletonBelow_setEntry (name : Text) (n : Node) (entries : List (Text × Node)) :
    skeletonBelow (setEntry name n entries) = setEntry name n.skeleton (skeletonBelow entries) := by
  induction entries with
  | nil => rfl
  | cons e entries ih =>
    rw [setEntry, skeletonBelow, setEntry]
    by_cases he : e.1 = name
    · rw [if_pos he, if_pos he, skeletonBelow]
    · rw [if_neg he, if_neg he, skeletonBelow, ih]

theorem put_cons_of_lookup (hl : entries.lookup name = some m) (rest : Location) (new : Node) :
    (dir entries).put (name :: rest) new = dir (setEntry name (m.put rest new) entries) := by
  rw [put, hl, Option.getD_some]

@[simp] theorem put_nil (n new : Node) : n.put [] new = new := by cases n <;> rfl

theorem put_eq_self (h : n.at? loc = some old) : n.put loc old = n := by
  induction loc generalizing n with
  | nil =>
    rw [at?_nil] at h
    rw [put_nil, Option.some.inj h]
  | cons name loc ih =>
    obtain ⟨entries, child, rfl, hl, hc⟩ := at?_cons_eq_some h
    rw [put_cons_of_lookup hl, ih hc, setEntry_eq_self hl]

theorem skeleton_put (h : n.at? loc = some old) (hs : new.skeleton = old.skeleton) :
    (n.put loc new).skeleton = n.skeleton := by
  induction loc generalizing n with
  | nil =>
    rw [at?_nil] at h
    rw [put_nil, hs, Option.some.inj h]
  | cons name loc ih =>
    obtain ⟨entries, child, rfl, hl, hc⟩ := at?_cons_eq_some h
    have hk : (skeletonBelow entries).lookup name = some child.skeleton := by
      rw [lookup_skeletonBelow, hl, Option.map_some]
    rw [put_cons_of_lookup hl, skeleton, skeleton, skeletonBelow_setEntry, ih hc,
      setEntry_eq_self hk]

theorem setEntry_setEntry (name : Text) (n m : Node) (entries : List (Text × Node)) :
    setEntry name m (setEntry name n entries) = setEntry name m entries := by
  induction entries with
  | nil => simp [setEntry]
  | cons e entries ih =>
    by_cases he : e.1 = name
    · simp [setEntry, he]
    · simp [setEntry, he, ih]

theorem setEntry_comm {other : Text} {n' m' : Node} (h : name ≠ other)
    (hl : entries.lookup name = some n') (hl' : entries.lookup other = some m') (n m : Node) :
    setEntry other m (setEntry name n entries) = setEntry name n (setEntry other m entries) := by
  induction entries with
  | nil => simp at hl
  | cons e entries ih =>
    obtain ⟨key, k⟩ := e
    rw [lookup_cons_ite] at hl hl'
    by_cases hn : key = name
    · subst hn
      simp [setEntry, h]
    · by_cases ho : key = other
      · subst ho
        simp [setEntry, hn]
      · rw [if_neg (Ne.symm hn)] at hl
        rw [if_neg (Ne.symm ho)] at hl'
        simp [setEntry, hn, ho, ih hl hl']

/-- Files in different places can be changed in any order. -/
theorem put_put_comm {loc' : Location} {b' c' : Bytes} (h : n.at? loc = some (file b))
    (h' : n.at? loc' = some (file b')) (hne : loc ≠ loc') :
    (n.put loc (file c)).put loc' (file c') = (n.put loc' (file c')).put loc (file c) := by
  induction loc generalizing n loc' with
  | nil =>
    rw [at?_nil] at h
    obtain rfl := Option.some.inj h
    cases loc' with
    | nil => exact absurd rfl hne
    | cons other rest' => cases h'
  | cons name rest ih =>
    obtain ⟨entries, child, rfl, hl, hc⟩ := at?_cons_eq_some h
    cases loc' with
    | nil => cases h'
    | cons other rest' =>
      obtain ⟨_, child', hd, hl', hc'⟩ := at?_cons_eq_some h'
      obtain rfl := dir.inj hd
      by_cases ho : name = other
      · subst ho
        obtain rfl : child = child' := Option.some.inj (hl.symm.trans hl')
        have hput (m : Node) : (setEntry name m entries).lookup name = some m := by
          rw [lookup_setEntry, if_pos rfl]
        have hrest : rest ≠ rest' := fun he ↦ hne (by rw [he])
        rw [put_cons_of_lookup hl, put_cons_of_lookup (hput _), put_cons_of_lookup hl',
          put_cons_of_lookup (hput _), setEntry_setEntry, setEntry_setEntry, ih hc hc' hrest]
      · have hother (m : Node) : (setEntry name m entries).lookup other = some child' := by
          rw [lookup_setEntry, if_neg (Ne.symm ho), hl']
        have hname (m : Node) : (setEntry other m entries).lookup name = some child := by
          rw [lookup_setEntry, if_neg ho, hl]
        rw [put_cons_of_lookup hl, put_cons_of_lookup (hother _), put_cons_of_lookup hl',
          put_cons_of_lookup (hname _), setEntry_comm ho hl hl']

theorem content?_at?_put (h : n.at? loc = some (file b)) (loc' : Location) :
    ((n.put loc (file c)).at? loc').bind content? =
      if loc' = loc then some c else (n.at? loc').bind content? := by
  induction loc generalizing n loc' with
  | nil =>
    rw [at?_nil] at h
    obtain rfl := Option.some.inj h
    cases loc' <;> simp [at?, content?]
  | cons name loc ih =>
    obtain ⟨entries, child, rfl, hl, hc⟩ := at?_cons_eq_some h
    rw [put_cons_of_lookup hl]
    cases loc' with
    | nil => simp [content?]
    | cons other rest =>
      rw [at?, at?, lookup_setEntry]
      by_cases ho : other = name
      · subst ho
        rw [if_pos rfl, hl]
        simpa using ih hc rest
      · rw [if_neg ho]
        simp [ho]

end Node

end LiteralPatch
