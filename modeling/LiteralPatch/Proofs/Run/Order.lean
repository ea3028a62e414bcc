import LiteralPatch.Proofs.Run.Edits

namespace LiteralPatch

/-- Whatever order the entries of each directory come in, some listing order gives them so. -/
theorem exists_listingOrder (order : Text → List Text) : ∃ before : ListingOrder,
    ∀ path (entries : List (Text × List Visit)), (order path).Nodup →
      (entries.map Prod.fst).Perm (order path) →
        (entries.mergeSort fun a b ↦ before path a.1 b.1).map Prod.fst = order path := by
  refine ⟨fun path a b ↦ decide ((order path).idxOf a ≤ (order path).idxOf b),
    fun path entries hn hp ↦ ?_⟩
  have hperm := ((List.mergeSort_perm entries fun a b ↦
    decide ((order path).idxOf a.1 ≤ (order path).idxOf b.1)).map Prod.fst).trans hp
  refine @List.Perm.eq_of_pairwise _ (fun a b ↦ (order path).idxOf a ≤ (order path).idxOf b) _ _
    ?_ ?_ ?_ hperm
  · intro a b _ hb hab hba
    exact ((List.idxOf_inj hb).1 (Nat.le_antisymm hba hab)).symm
  · refine List.pairwise_map.2 ((List.pairwise_mergeSort ?_ ?_ entries).imp of_decide_eq_true)
    · intro a b c hab hbc
      exact decide_eq_true ((of_decide_eq_true hab).trans (of_decide_eq_true hbc))
    · intro a b
      simpa using Nat.le_total _ _
  · refine List.pairwise_iff_getElem.2 fun i j hi hj hlt ↦ ?_
    rw [hn.idxOf_getElem i hi, hn.idxOf_getElem j hj]
    exact Nat.le_of_lt hlt

namespace Settings

def verdict? (cfg : Settings) (fs : FileSystem) (j : Job) : Option Outcome :=
  (fs.readSource j.path).toOption.map (cfg.outcomeOf j)

def job? (cfg : Settings) (fs : FileSystem) : Visit → Option Job
  | .entry path => if fs.isFile path then (cfg.kind? path).map (Job.mk path) else none
  | .unlisted _ _ _ => none

variable {cfg : Settings} {fs : FileSystem} {before before' : ListingOrder} {path : Text}
  {visits visits' : List Visit} {js js' : List Job} {os : List Outcome} {j j' : Job}
  {s : SourceText}

theorem jobsAmong_eq_filterMap (h : walkFailure? visits = none) :
    cfg.jobsAmong fs visits = visits.filterMap (cfg.job? fs) := by
  induction visits with
  | nil => rfl
  | cons visit rest ih =>
    cases visit with
    | unlisted path depth fault => cases h
    | entry path =>
      rw [jobsAmong, ih h, List.filterMap_cons, job?]
      cases fs.isFile path with
      | false => rfl
      | true => cases cfg.kind? path <;> rfl

theorem walkFailure?_walk_congr (before before' : ListingOrder) (fs : FileSystem) (root : Text) :
    walkFailure? (fs.walk before root) = none ↔ walkFailure? (fs.walk before' root) = none := by
  have hp := FileSystem.walk_perm_walk before before' fs root
  rw [walkFailure?_eq_none_iff, walkFailure?_eq_none_iff]
  simp only [Listed, hp.mem_iff]

theorem jobs_perm_jobs (hw : walkFailure? (fs.walk before cfg.root) = none)
    (before' : ListingOrder) : (cfg.jobs before fs).Perm (cfg.jobs before' fs) := by
  have hw' := (walkFailure?_walk_congr before before' fs cfg.root).1 hw
  rw [jobs, jobs, jobsAmong_eq_filterMap hw, jobsAmong_eq_filterMap hw']
  exact (FileSystem.walk_perm_walk before before' fs cfg.root).filterMap _

theorem JobsApart.of_walk (h : cfg.JobsApart before fs)
    (hw : walkFailure? (fs.walk before cfg.root) = none) (before' : ListingOrder) :
    cfg.JobsApart before' fs :=
  ((jobs_perm_jobs hw before').map fun j : Job ↦ fs.locate j.path).nodup h

theorem verdict?_eq_some_iff {o : Outcome} :
    cfg.verdict? fs j = some o ↔ ∃ s, fs.readSource j.path = .ok s ∧ cfg.outcomeOf j s = o := by
  rw [verdict?]
  cases fs.readSource j.path <;> simp [Except.toOption]

theorem read_filesAfter_iff {b : Bytes} (h : ∀ j ∈ js, fs.locate j.path ≠ fs.locate path) :
    (cfg.filesAfter fs js).read path = .ok b ↔ fs.read path = .ok b := by
  rw [FileSystem.read_eq_ok_iff, FileSystem.read_eq_ok_iff, locate_filesAfter]
  refine exists_congr fun loc ↦ and_congr_right fun hl ↦ ?_
  rw [content?_filesAfter fun j hj ↦ hl ▸ h j hj,
    FileSystem.host_congr (cfg.skeleton_filesAfter fs js)]

theorem readSource_filesAfter_iff (h : ∀ j ∈ js, fs.locate j.path ≠ fs.locate path) :
    (cfg.filesAfter fs js).readSource path = .ok s ↔ fs.readSource path = .ok s := by
  simp only [readSource_eq_ok_iff, read_filesAfter_iff h]

theorem verdict?_filesAfter (h : ∀ j' ∈ js, fs.locate j'.path ≠ fs.locate j.path) :
    cfg.verdict? (cfg.filesAfter fs js) j = cfg.verdict? fs j := by
  refine Option.ext fun o ↦ ?_
  rw [verdict?_eq_some_iff, verdict?_eq_some_iff]
  simp only [readSource_filesAfter_iff h]

theorem Turns.map_verdict? (h : cfg.Turns fs js os)
    (hn : (js.map fun j ↦ fs.locate j.path).Nodup) :
    js.map (cfg.verdict? fs) = os.map some := by
  induction h with
  | nil fs => rfl
  | @cons fs j js s os hs h ih =>
    rw [List.map_cons, List.nodup_cons] at hn
    simp only [locate_filesAfter] at ih
    have hrest : js.map (cfg.verdict? (cfg.filesAfter fs [j])) = js.map (cfg.verdict? fs) := by
      refine List.map_congr_left fun j' hj' ↦ verdict?_filesAfter fun j'' hj'' he ↦ hn.1 ?_
      obtain rfl := List.mem_singleton.1 hj''
      exact List.mem_map.2 ⟨j', hj', he.symm⟩
    rw [List.map_cons, List.map_cons, verdict?_eq_some_iff.2 ⟨s, hs, rfl⟩, ← hrest, ih hn.2]

theorem edit_edit_comm (h : fs.locate j.path ≠ fs.locate j'.path) :
    cfg.edit (cfg.edit fs j) j' = cfg.edit (cfg.edit fs j') j :=
  FileSystem.amend_amend_comm h _ _

/-- Turns of different files leave the same whatever order they are taken in. -/
theorem foldl_edit_perm (h : js.Perm js') (hn : (js.map fun j ↦ fs.locate j.path).Nodup) :
    js.foldl cfg.edit fs = js'.foldl cfg.edit fs := by
  -- Which paths lead to one file stays the same all along, as turns keep the skeleton.
  induction h generalizing fs with
  | nil => rfl
  | @cons j js js' _ ih =>
    have hloc (path : Text) : (cfg.edit fs j).locate path = fs.locate path :=
      FileSystem.locate_congr (fs.skeleton_amend j.path _) path
    rw [List.foldl_cons, List.foldl_cons]
    refine ih ?_
    simp only [hloc]
    exact (List.nodup_cons.1 hn).2
  | swap j j' js =>
    rw [List.map_cons, List.nodup_cons, List.map_cons, List.mem_cons, not_or] at hn
    simp only [List.foldl_cons]
    rw [edit_edit_comm hn.1.1]
  | trans h _ ih ih' => exact (ih hn).trans (ih' ((h.map _).nodup hn))

theorem filesAfter_perm (h : js.Perm js') (hn : (js.map fun j ↦ fs.locate j.path).Nodup) :
    cfg.filesAfter fs js = cfg.filesAfter fs js' := by
  rw [filesAfter, filesAfter, foldl_edit_perm h hn]

theorem walkFailure?_of_failure_eq_none (h : (cfg.run before fs).failure = none) :
    walkFailure? (fs.walk before cfg.root) = none := by
  exact ((course_of_failure_eq_none h).ended h).2

theorem failure_eq_none_iff (h : cfg.JobsApart before fs) :
    (cfg.run before fs).failure = none ↔
      fs.isDir cfg.root = true ∧ walkFailure? (fs.walk before cfg.root) = none ∧
        ∀ j ∈ cfg.jobs before fs, (cfg.verdict? fs j).isSome = true := by
  constructor
  · intro hf
    refine ⟨isDir_of_failure_eq_none hf, walkFailure?_of_failure_eq_none hf, fun j hj ↦ ?_⟩
    have hv : cfg.verdict? fs j ∈ (cfg.jobs before fs).map (cfg.verdict? fs) :=
      List.mem_map_of_mem hj
    rw [(course_of_failure_eq_none hf).turns.map_verdict? h] at hv
    obtain ⟨o, -, ho⟩ := List.mem_map.1 hv
    rw [← ho, Option.isSome_some]
  · rintro ⟨hd, hw, hall⟩
    obtain ⟨done, left, hc⟩ := exists_course hd before
    have hj : cfg.jobs before fs = done ++ left := hc.jobs_eq
    cases hf : (cfg.run before fs).failure with
    | none => rfl
    | some e =>
      rcases hc.failed e hf with ⟨j, hhead, hread⟩ | ⟨-, hw'⟩
      · obtain ⟨rest, rfl⟩ := List.head?_eq_some_iff.1 hhead
        -- No turn before that of `j` has touched its file, which can be read at the start.
        have hj' : j ∈ cfg.jobs before fs := by simp [hj]
        obtain ⟨o, ho⟩ := Option.isSome_iff_exists.1 (hall j hj')
        obtain ⟨s, hs, -⟩ := verdict?_eq_some_iff.1 ho
        rw [JobsApart, hj, List.map_append, List.nodup_append] at h
        have hapart : ∀ j' ∈ done, fs.locate j'.path ≠ fs.locate j.path := fun j' hj' ↦
          h.2.2 _ (List.mem_map_of_mem hj') _ List.mem_cons_self
        rw [← readSource_filesAfter_iff hapart, ← hc.files_eq, hread] at hs
        cases hs
      · rw [hw] at hw'
        cases hw'

theorem failure_eq_none_of_order (h : cfg.JobsApart before fs)
    (hf : (cfg.run before fs).failure = none) (before' : ListingOrder) :
    (cfg.run before' fs).failure = none := by
  obtain ⟨hd, hw, hall⟩ := (failure_eq_none_iff h).1 hf
  refine (failure_eq_none_iff (h.of_walk hw before')).2
    ⟨hd, (walkFailure?_walk_congr before before' fs cfg.root).1 hw, fun j hj ↦ hall j ?_⟩
  exact (jobs_perm_jobs hw before').mem_iff.2 hj

/-- If no two of the paths that a run has to handle lead to one file, the order in which directories
are listed makes no difference: with any other order the run succeeds if this one does, and then it
leaves the same files, and has the same outcomes and announcements in some order. -/
theorem run_perm_run (h : cfg.JobsApart before fs) (before' : ListingOrder) :
    ((cfg.run before' fs).failure = none ↔ (cfg.run before fs).failure = none) ∧
    ((cfg.run before fs).failure = none →
      (cfg.run before' fs).files = (cfg.run before fs).files ∧
      (cfg.run before' fs).outcomes.Perm (cfg.run before fs).outcomes ∧
      (cfg.run before' fs).announced.Perm (cfg.run before fs).announced) := by
  refine ⟨⟨fun hf ↦ ?_, fun hf ↦ failure_eq_none_of_order h hf before'⟩, fun hf ↦ ?_⟩
  · have hw := walkFailure?_of_failure_eq_none hf
    rw [← walkFailure?_walk_congr before] at hw
    exact failure_eq_none_of_order (h.of_walk hw before') hf before
  · have hw := walkFailure?_of_failure_eq_none hf
    have hf' := failure_eq_none_of_order h hf before'
    have hc := course_of_failure_eq_none hf
    have hc' := course_of_failure_eq_none hf'
    have hjobs := jobs_perm_jobs hw before'
    have hperm : (cfg.run before' fs).outcomes.Perm (cfg.run before fs).outcomes := by
      have hsome := hjobs.map (cfg.verdict? fs)
      rw [hc.turns.map_verdict? h, hc'.turns.map_verdict? (h.of_walk hw before'),
        List.map_perm_map_iff (Option.some_injective _)] at hsome
      exact hsome.symm
    refine ⟨?_, hperm, ?_⟩
    · rw [hc.files_eq, hc'.files_eq, filesAfter_perm hjobs h]
    · rw [hc.announced_eq, hc'.announced_eq]
      exact hperm.filter _

def scattered : FileSystem where
  top := .dir [(['o'], .dir [(['S'], .file [0x22, 0x61, 0x22])]),
    (['r'], .dir [("a.cs".toList, .file [0x22, 0x31, 0x22]),
      (['d'], .dir [("b.cs".toList, .file [0x22, 0x62, 0x22])]),
      ("c.cs".toList, .link "../o/S".toList)])]
  cwd := []

theorem run_perm_run_scattered :
    (signs.run (fun _ _ _ ↦ true) scattered).outcomes.map (·.path) =
        ["r/a.cs".toList, "r/d/b.cs".toList, "r/c.cs".toList] ∧
      (signs.run (fun _ _ _ ↦ false) scattered).outcomes.map (·.path) =
        ["r/c.cs".toList, "r/d/b.cs".toList, "r/a.cs".toList] ∧
      (signs.run (fun _ _ _ ↦ false) scattered).failure = none ∧
      (signs.run (fun _ _ _ ↦ false) scattered).files =
        (signs.run (fun _ _ _ ↦ true) scattered).files ∧
      (signs.run (fun _ _ _ ↦ false) scattered).outcomes.Perm
        (signs.run (fun _ _ _ ↦ true) scattered).outcomes := by
  have hsuccess : (signs.run (fun _ _ _ ↦ true) scattered).failure = none := by cbv
  have hapart : signs.JobsApart (fun _ _ _ ↦ true) scattered := by
    have hlocs : (signs.jobs (fun _ _ _ ↦ true) scattered).map
        (fun j ↦ scattered.locate j.path) = [.ok [['r'], "a.cs".toList],
          .ok [['r'], ['d'], "b.cs".toList], .ok [['o'], ['S']]] := by cbv
    rw [JobsApart, hlocs]
    decide
  obtain ⟨hiff, hsame⟩ := run_perm_run hapart fun _ _ _ ↦ false
  obtain ⟨hfiles, hperm, -⟩ := hsame hsuccess
  exact ⟨by cbv, by cbv, hiff.2 hsuccess, hfiles, hperm⟩

end Settings

end LiteralPatch
