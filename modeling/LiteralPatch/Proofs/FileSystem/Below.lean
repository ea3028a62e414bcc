import LiteralPatch.Proofs.FileSystem.Amend
import LiteralPatch.Proofs.FileSystem.Locations

namespace LiteralPatch

namespace FileSystem

structure WithinLimits (fs : FileSystem) (root : Text) (here : Location) : Prop where
  path : ∀ rel, (fs.top.at? (here ++ rel)).isSome →
    Utf8.size (Path.below root rel) < pathLimit
  name : ∀ rel, (fs.top.at? (here ++ rel)).isSome → ∀ name ∈ rel, Utf8.size name ≤ nameLimit

/-- All that a way down goes through before its last name is directories, none of them a link. -/
def ThroughDirs (fs : FileSystem) (here rel : Location) : Prop :=
  ∀ init name rest, rel = init ++ name :: rest → fs.dirAt (here ++ init)

def LeadsToFile (fs : FileSystem) (path : Text) : Prop :=
  ∃ k ≤ linkLimit, ∃ loc, fs.LeadsTo path k loc ∧
    ∃ content, fs.top.at? loc = some (.file content)

variable {fs : FileSystem} {root path name : Text} {here rel rest loc : Location} {k : Nat}
  {n : Node}

theorem LeadsTo.stem (h : fs.LeadsTo root k here) :
    fs.Leads k (fs.start root) (Path.stem root) here := by
  rw [LeadsTo] at h
  by_cases hs : root.getLast? = some '/'
  · rw [Path.splitOn_eq_stem hs] at h
    obtain ⟨i, j, mid, rfl, hi, hj⟩ := h.split
    cases hj with
    | stay hd hstep hdone =>
      cases hdone
      exact hi
    | enter hd hstep hn hl hdone => exact absurd (.inl rfl) hstep.not_stay
    | jump hd hstep hn hdone => exact absurd (.inl rfl) hstep.not_stay
  · rwa [Path.splitOn_eq_stem_of_ne hs] at h

theorem start_below (hr : root ≠ []) (rel : Location) :
    fs.start (Path.below root rel) = fs.start root := by
  obtain ⟨c, dir, rfl⟩ := List.exists_cons_of_ne_nil hr
  obtain ⟨rest, hb⟩ := Path.exists_below_cons c dir rel
  rw [start, start, hb]
  rfl

theorem dirAt_of_at?_append (h : fs.top.at? (here ++ name :: rest) = some n) : fs.dirAt here := by
  rw [Node.at?_append] at h
  obtain ⟨m, hm, hn⟩ := Option.bind_eq_some_iff.1 h
  obtain ⟨entries, child, rfl, -, -⟩ := Node.at?_cons_eq_some hn
  rw [dirAt, hm]
  rfl

theorem throughDirs_of_at? (hn : fs.top.at? (here ++ rel) = some n) :
    fs.ThroughDirs here rel := by
  rintro init name rest rfl
  rw [← List.append_assoc] at hn
  exact dirAt_of_at?_append hn

theorem leads_of_at? (hn : fs.top.at? (here ++ rel) = some n) (hl : ∀ target, n ≠ .link target)
    (hs : ∀ name ∈ rel, IsName name ∧ Utf8.size name ≤ nameLimit) :
    fs.Leads 0 here rel (here ++ rel) := by
  induction rel generalizing here with
  | nil => simpa using Leads.done here
  | cons name rel ih =>
    rw [List.forall_mem_cons] at hs
    have hnames : Names name :=
      ⟨fun h ↦ h.elim hs.1.1.ne_nil hs.1.1.ne_dot, hs.1.1.ne_dots, hs.1.2⟩
    have hd : fs.dirAt here := dirAt_of_at?_append hn
    rw [List.append_cons] at hn ⊢
    have hrest := ih hn hs.2
    cases rel with
    | nil =>
      rw [List.append_nil] at hn
      exact .enter hd hnames hn hl hrest
    | cons next rest =>
      obtain ⟨m, hm, hdir⟩ := (Option.any_eq_true _ _).1 (dirAt_of_at?_append hn)
      have hnot : ∀ target, m ≠ .link target := by
        rintro target rfl
        cases hdir
      exact .enter hd hnames hm hnot hrest

theorem isName_of_isSome (hp : fs.top.Proper) (h : (fs.top.at? (here ++ rel)).isSome = true) :
    ∀ name ∈ rel, IsName name := by
  obtain ⟨n, hn⟩ := Option.isSome_iff_exists.1 h
  exact fun name hname ↦ (hp.of_at? hn).2 name (List.mem_append_right here hname)

theorem leadsTo_of_stem (hr : root ≠ []) (h : fs.LeadsTo root k here)
    (hs : ∀ name ∈ rel, IsName name) (hrel : fs.Leads 0 here rel loc) :
    fs.LeadsTo (Path.below root rel) k loc := by
  cases rel with
  | nil =>
    cases hrel
    exact h
  | cons name rest =>
    rw [LeadsTo, start_below hr, Path.splitOn_below hs (List.cons_ne_nil _ _)]
    exact h.stem.append hrel

theorem admissible_below (h : Admissible root) (hs : ∀ name ∈ rel, IsName name)
    (hp : Utf8.size (Path.below root rel) < pathLimit) : Admissible (Path.below root rel) where
  noNul := Path.nul_not_mem_below h.noNul hs
  ne_nil := by
    obtain ⟨c, dir, rfl⟩ := List.exists_cons_of_ne_nil h.ne_nil
    obtain ⟨rest, hb⟩ := Path.exists_below_cons c dir rel
    rw [hb]
    exact List.cons_ne_nil c rest
  short := hp

theorem isFile_iff_leadsTo (h : Admissible path) :
    fs.isFile path = true ↔ fs.LeadsToFile path := by
  simp only [LeadsToFile, isFile_iff, content?_eq_some, locate_eq_ok_iff]
  constructor
  · rintro ⟨loc, content, ⟨-, k, hk, hl⟩, hc⟩
    exact ⟨k, hk, loc, hl, content, hc⟩
  · rintro ⟨k, hk, loc, hl, content, hc⟩
    exact ⟨loc, content, ⟨h, k, hk, hl⟩, hc⟩

section Located

variable (hp : fs.top.Proper) (hh : fs.locate root = .ok here)
  (hw : fs.WithinLimits root here)

include hp hh hw

theorem isFile_below_iff (hn : fs.top.at? (here ++ rel) = some n) :
    fs.isFile (Path.below root rel) = true ↔
      (∃ content, n = .file content) ∨
        (∃ target, n = .link target) ∧ fs.LeadsToFile (Path.below root rel) := by
  obtain ⟨hroot, k, hk, hlead⟩ := locate_eq_ok_iff.1 hh
  have hsome : (fs.top.at? (here ++ rel)).isSome := Option.isSome_iff_exists.2 ⟨n, hn⟩
  have hs : ∀ name ∈ rel, IsName name := isName_of_isSome hp hsome
  rw [isFile_iff_leadsTo (admissible_below hroot hs (hw.path rel hsome))]
  have hreal (hl : ∀ target, n ≠ .link target) :
      fs.LeadsTo (Path.below root rel) k (here ++ rel) :=
    leadsTo_of_stem hroot.ne_nil hlead hs <|
      leads_of_at? hn hl fun name hname ↦ ⟨hs name hname, hw.name rel hsome name hname⟩
  cases n with
  | file content =>
    have hfile : fs.LeadsToFile (Path.below root rel) := ⟨k, hk, _, hreal nofun, content, hn⟩
    simpa using hfile
  | link target => simp
  | dir entries =>
    simp only [reduceCtorEq, exists_false, false_and, or_self, iff_false]
    rintro ⟨k', -, loc, hl, content, hc⟩
    -- The path leads to the directory, and a path leads to one location only.
    obtain rfl := (hreal nofun).unique hl
    rw [hn] at hc
    cases hc

end Located

end FileSystem

end LiteralPatch
