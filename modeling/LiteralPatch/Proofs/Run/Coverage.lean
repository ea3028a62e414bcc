import LiteralPatch.Proofs.Run.Edits

namespace LiteralPatch

namespace Settings

structure Due (cfg : Settings) (fs : FileSystem) (here rel : Location) : Prop where
  dirs : fs.ThroughDirs here rel
  leads : (∃ content, fs.top.at? (here ++ rel) = some (.file content)) ∨
    ∃ target, fs.top.at? (here ++ rel) = some (.link target) ∧
      fs.LeadsToFile (Path.below cfg.root rel)
  kind : (cfg.kind? (Path.below cfg.root rel)).isSome = true

/-- A run has handled each path that is due once and no other path, it has changed no file that
these do not lead to, and its walk went through directories only. -/
structure Covers (cfg : Settings) (before : ListingOrder) (fs : FileSystem) (here : Location)
    (r : Run) : Prop where
  once : ∀ rel, cfg.Due fs here rel →
    (r.outcomes.map (·.path)).count (Path.below cfg.root rel) = 1
  due : ∀ o ∈ r.outcomes, ∃ rel, cfg.Due fs here rel ∧ o.path = Path.below cfg.root rel ∧
    cfg.kind? o.path = some o.kind
  not_due : ∀ rel, (∀ name ∈ rel, IsName name) → ¬cfg.Due fs here rel →
    Path.below cfg.root rel ∉ r.outcomes.map (·.path)
  dirs : ∀ v ∈ fs.walk before cfg.root, ∃ rel, v = .entry (Path.below cfg.root rel) ∧
    fs.ThroughDirs here rel
  skeleton_eq : r.files.skeleton = fs.skeleton
  content?_eq : ∀ loc,
    (∀ rel, cfg.Due fs here rel → fs.locate (Path.below cfg.root rel) ≠ .ok loc) →
      r.files.content? loc = fs.content? loc

variable {cfg : Settings} {fs : FileSystem} {before : ListingOrder} {here rel : Location}
  {visits : List Visit} {js : List Job} {os : List Outcome} {j : Job} {path : Text} {n : Node}

theorem mem_jobsAmong (h : walkFailure? visits = none) :
    j ∈ cfg.jobsAmong fs visits ↔
      .entry j.path ∈ visits ∧ fs.isFile j.path = true ∧ cfg.kind? j.path = some j.kind := by
  induction visits with
  | nil => simp [jobsAmong]
  | cons visit rest ih =>
    cases visit with
    | unlisted path depth fault => cases h
    | entry path =>
      have ih := ih h
      rw [List.mem_cons, Visit.entry.injEq, or_and_right]
      cases hf : fs.isFile path with
      | false =>
        rw [jobsAmong_passed hf, ih]
        refine (or_iff_right ?_).symm
        rintro ⟨rfl, hj, -⟩
        rw [hf] at hj
        cases hj
      | true =>
        cases hk : cfg.kind? path with
        | none =>
          rw [jobsAmong_skipped hk, ih]
          refine (or_iff_right ?_).symm
          rintro ⟨rfl, -, hj⟩
          rw [hk] at hj
          cases hj
        | some kind =>
          rw [jobsAmong_file hf hk, List.mem_cons, ih]
          refine or_congr_left ⟨?_, ?_⟩
          · rintro rfl
            exact ⟨rfl, hf, hk⟩
          · obtain ⟨path', kind'⟩ := j
            rintro ⟨rfl, -, hj⟩
            rw [Option.some.inj (hk.symm.trans hj)]

theorem sublist_jobsAmong (cfg : Settings) (fs : FileSystem) (visits : List Visit) :
    ((cfg.jobsAmong fs visits).map fun j ↦ Visit.entry j.path).Sublist visits := by
  induction visits with
  | nil => exact .slnil
  | cons visit rest ih =>
    cases visit with
    | unlisted path depth fault => exact List.nil_sublist _
    | entry path =>
      rw [jobsAmong]
      split
      · split
        · exact ih.cons_cons _
        · exact ih.cons _
      · exact ih.cons _

section Located

variable (hp : fs.top.Proper) (hh : fs.locate cfg.root = .ok here)
  (hw : fs.WithinLimits cfg.root here)

include hp hh hw

theorem due_iff :
    cfg.Due fs here rel ↔ (fs.top.at? (here ++ rel)).isSome = true ∧
      fs.isFile (Path.below cfg.root rel) = true ∧
      (cfg.kind? (Path.below cfg.root rel)).isSome = true := by
  constructor
  · rintro ⟨-, hleads, hkind⟩
    obtain ⟨content, hn⟩ | ⟨target, hn, hleads⟩ := hleads
    · have hf := (FileSystem.isFile_below_iff hp hh hw hn).2 (.inl ⟨content, rfl⟩)
      exact ⟨Option.isSome_iff_exists.2 ⟨_, hn⟩, hf, hkind⟩
    · have hf := (FileSystem.isFile_below_iff hp hh hw hn).2 (.inr ⟨⟨target, rfl⟩, hleads⟩)
      exact ⟨Option.isSome_iff_exists.2 ⟨_, hn⟩, hf, hkind⟩
  · rintro ⟨hsome, hfile, hkind⟩
    obtain ⟨n, hn⟩ := Option.isSome_iff_exists.1 hsome
    refine ⟨FileSystem.throughDirs_of_at? hn, ?_, hkind⟩
    obtain ⟨content, rfl⟩ | ⟨⟨target, rfl⟩, hleads⟩ :=
      (FileSystem.isFile_below_iff hp hh hw hn).1 hfile
    · exact .inl ⟨content, hn⟩
    · exact .inr ⟨target, hn, hleads⟩

theorem mem_jobs_iff (hn : fs.top.at? here = some n)
    (hwalk : walkFailure? (fs.walk before cfg.root) = none) :
    path ∈ (cfg.jobs before fs).map (·.path) ↔
      ∃ rel, cfg.Due fs here rel ∧ path = Path.below cfg.root rel := by
  have hv := walkFailure?_eq_none_iff.1 hwalk
  rw [List.mem_map]
  constructor
  · rintro ⟨j, hj, rfl⟩
    obtain ⟨hmem, hf, hk⟩ := (mem_jobsAmong hwalk).1 hj
    obtain ⟨rel, hsome, he⟩ := (FileSystem.mem_walk_iff hp hh hn hv).1 hmem
    have he : Path.below cfg.root rel = j.path := Visit.entry.inj he
    refine ⟨rel, (due_iff hp hh hw).2 ⟨hsome, he ▸ hf, ?_⟩, he.symm⟩
    rw [he, hk]
    rfl
  · rintro ⟨rel, hdue, rfl⟩
    obtain ⟨hsome, hf, hk⟩ := (due_iff hp hh hw).1 hdue
    obtain ⟨kind, hkind⟩ := Option.isSome_iff_exists.1 hk
    have hmem : Visit.entry (Path.below cfg.root rel) ∈ fs.walk before cfg.root :=
      (FileSystem.mem_walk_iff hp hh hn hv).2 ⟨rel, hsome, rfl⟩
    exact ⟨⟨_, kind⟩, (mem_jobsAmong hwalk).2 ⟨hmem, hf, hkind⟩, rfl⟩

omit hw in
theorem nodup_jobs (hn : fs.top.at? here = some n)
    (hwalk : walkFailure? (fs.walk before cfg.root) = none) :
    ((cfg.jobs before fs).map (·.path)).Nodup := by
  have h := (FileSystem.nodup_walk hp hh hn (walkFailure?_eq_none_iff.1 hwalk)).sublist
    (cfg.sublist_jobsAmong fs (fs.walk before cfg.root))
  refine List.Nodup.of_map Visit.entry ?_
  rw [List.map_map]
  exact h

end Located

def knots : FileSystem where
  top := .dir [(['r'], .dir [("a.cs".toList, .file [0x22, 0x61, 0x22]),
    (['d'], .dir [("b.cs".toList, .link "../a.cs".toList), (['u'], .link "..".toList)]),
    ("e.cs".toList, .dir []), ("f.cs".toList, .link "f.cs".toList),
    ("g.cs".toList, .link ['x'])]), (['l'], .link ['r'])]
  cwd := []

def throughLink : Settings := { signs with root := ['l'] }

end Settings

end LiteralPatch
