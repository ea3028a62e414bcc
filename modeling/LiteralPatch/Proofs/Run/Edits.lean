import Mathlib
import LiteralPatch.Proofs.FileSystem.Visits
import LiteralPatch.Proofs.Run.Turn

namespace LiteralPatch

namespace Settings

/-- The jobs among some visits, in their order, up to a directory that cannot be listed. -/
def jobsAmong (cfg : Settings) (fs : FileSystem) : List Visit → List Job
  | [] => []
  | .unlisted _ _ _ :: _ => []
  | .entry path :: rest =>
    if fs.isFile path then
      match cfg.kind? path with
      | some kind => ⟨path, kind⟩ :: cfg.jobsAmong fs rest
      | none => cfg.jobsAmong fs rest
    else cfg.jobsAmong fs rest

def jobs (cfg : Settings) (before : ListingOrder) (fs : FileSystem) : List Job :=
  cfg.jobsAmong fs (fs.walk before cfg.root)

def JobsApart (cfg : Settings) (before : ListingOrder) (fs : FileSystem) : Prop :=
  ((cfg.jobs before fs).map fun j ↦ fs.locate j.path).Nodup

def walkFailure? : List Visit → Option PatchError
  | [] => none
  | .unlisted path depth fault :: _ => some (.walkFailed path depth fault)
  | .entry _ :: rest => walkFailure? rest

def closingLog (r : Run) : List LogEntry :=
  if r.failure.isNone then [.finished r.outcomes.length (r.outcomes.countP (·.changed))] else []

inductive Turns (cfg : Settings) : FileSystem → List Job → List Outcome → Prop
  | nil (fs : FileSystem) : Turns cfg fs [] []
  | cons {fs : FileSystem} {j : Job} {js : List Job} {s : SourceText} {os : List Outcome}
      (hs : fs.readSource j.path = .ok s) (h : Turns cfg (cfg.filesAfter fs [j]) js os) :
      Turns cfg fs (j :: js) (cfg.outcomeOf j s :: os)

/-- Of the jobs among some visits a run does the first ones, and what comes next ends it. -/
structure Course (cfg : Settings) (fs : FileSystem) (visits : List Visit) (r : Run)
    (done left : List Job) : Prop where
  jobs_eq : cfg.jobsAmong fs visits = done ++ left
  turns : cfg.Turns fs done r.outcomes
  files_eq : r.files = cfg.filesAfter fs done
  announced_eq : r.announced = r.outcomes.filter (·.changed)
  ended : r.failure = none → left = [] ∧ walkFailure? visits = none
  failed : ∀ e, r.failure = some e →
    (∃ j ∈ left.head?, r.files.readSource j.path = .error e) ∨
      (left = [] ∧ walkFailure? visits = some e)

/-- The first `k` jobs of a run have been done in full, and nothing else. -/
structure DoneFirst (cfg : Settings) (before : ListingOrder) (fs : FileSystem) (k : Nat)
    (r : Run) : Prop where
  files_eq : cfg.dryRun = false → r.files = ((cfg.jobs before fs).take k).foldl cfg.edit fs
  files_eq_of_dryRun : cfg.dryRun = true → r.files = fs
  skeleton_eq : r.files.skeleton = fs.skeleton
  content?_eq : ∀ loc, (∀ j ∈ (cfg.jobs before fs).take k, fs.locate j.path ≠ .ok loc) →
    r.files.content? loc = fs.content? loc
  length_eq : r.outcomes.length = k
  outcome_eq : ∀ i < k, ∃ j s, (cfg.jobs before fs)[i]? = some j ∧
    (cfg.filesAfter fs ((cfg.jobs before fs).take i)).readSource j.path = .ok s ∧
    r.outcomes[i]? = some (cfg.outcomeOf j s)
  announced_eq : r.announced = r.outcomes.filter (·.changed)
  walk_eq : ∀ i, (cfg.filesAfter fs ((cfg.jobs before fs).take i)).walk before cfg.root =
    fs.walk before cfg.root

/-- How far a run gets: through all of its jobs, or up to what it fails at. -/
structure Reaches (cfg : Settings) (before : ListingOrder) (fs : FileSystem) (k : Nat)
    (r : Run) : Prop where
  le_length : k ≤ (cfg.jobs before fs).length
  doneFirst : cfg.DoneFirst before fs k r
  ended : r.failure = none → k = (cfg.jobs before fs).length
  failed : ∀ e, r.failure = some e →
    (fs.isDir cfg.root = false ∧ e = .rootMissing cfg.root ∧ k = 0) ∨
    (∃ j, (cfg.jobs before fs)[k]? = some j ∧ r.files.readSource j.path = .error e) ∨
    (k = (cfg.jobs before fs).length ∧ walkFailure? (fs.walk before cfg.root) = some e)

variable {cfg : Settings} {fs fs' : FileSystem} {before : ListingOrder} {path : Text}
  {kind : FileKind} {visits rest : List Visit} {done left js : List Job} {os : List Outcome}
  {r : Run}

theorem jobsAmong_congr (h : fs'.skeleton = fs.skeleton) (visits : List Visit) :
    cfg.jobsAmong fs' visits = cfg.jobsAmong fs visits := by
  induction visits with
  | nil => rfl
  | cons visit rest ih =>
    cases visit with
    | unlisted path depth fault => rfl
    | entry path => rw [jobsAmong, jobsAmong, FileSystem.isFile_congr h, ih]

theorem jobsAmong_passed (h : fs.isFile path = false) :
    cfg.jobsAmong fs (.entry path :: rest) = cfg.jobsAmong fs rest := by
  simp [jobsAmong, h]

theorem jobsAmong_skipped (h : cfg.kind? path = none) :
    cfg.jobsAmong fs (.entry path :: rest) = cfg.jobsAmong fs rest := by
  simp [jobsAmong, h]

theorem jobsAmong_file (hf : fs.isFile path = true) (hk : cfg.kind? path = some kind) :
    cfg.jobsAmong fs (.entry path :: rest) = ⟨path, kind⟩ :: cfg.jobsAmong fs rest := by
  simp [jobsAmong, hf, hk]

theorem walkFailure?_eq_none_iff : walkFailure? visits = none ↔ Listed visits := by
  induction visits with
  | nil => simp [walkFailure?, Listed]
  | cons visit rest ih =>
    cases visit with
    | entry path => simp [walkFailure?, ih, Listed]
    | unlisted path depth fault => simp [walkFailure?, Listed]

theorem Turns.length_eq (h : cfg.Turns fs js os) : os.length = js.length := by
  induction h with
  | nil fs => rfl
  | cons hs h ih => rw [List.length_cons, List.length_cons, ih]

theorem Turns.jobs_eq (h : cfg.Turns fs js os) : (os.map fun o ↦ Job.mk o.path o.kind) = js := by
  induction h with
  | nil fs => rfl
  | cons hs h ih =>
    rw [List.map_cons, ih]
    rfl

theorem Turns.getElem? (h : cfg.Turns fs js os) {i : Nat} {j : Job} (hj : js[i]? = some j) :
    ∃ s, (cfg.filesAfter fs (js.take i)).readSource j.path = .ok s ∧
      os[i]? = some (cfg.outcomeOf j s) := by
  induction h generalizing i with
  | nil fs => simp at hj
  | @cons fs j' js s os hs h ih =>
    cases i with
    | zero =>
      obtain rfl : j' = j := by simpa using hj
      exact ⟨s, by simpa using hs, rfl⟩
    | succ i =>
      obtain ⟨s', hs', ho⟩ := ih hj
      refine ⟨s', ?_, ho⟩
      rwa [List.take_succ_cons, filesAfter_cons]

theorem Course.of_jobsAmong_eq {r' : Run} {visits' : List Visit}
    (h : cfg.Course fs visits r done left) (hj : cfg.jobsAmong fs visits' = cfg.jobsAmong fs visits)
    (hw : walkFailure? visits' = walkFailure? visits)
    (hr : r' = { r with log := r'.log }) : cfg.Course fs visits' r' done left := by
  rw [hr]
  exact ⟨hj.trans h.jobs_eq, h.turns, h.files_eq, h.announced_eq, hw ▸ h.ended, hw ▸ h.failed⟩

theorem Course.cons {s : SourceText} {log : List LogEntry} (hf : fs.isFile path = true)
    (hk : cfg.kind? path = some kind) (hs : fs.readSource path = .ok s)
    (h : cfg.Course (cfg.filesAfter fs [⟨path, kind⟩]) rest r done left) :
    cfg.Course fs (.entry path :: rest) (r.after (cfg.outcomeOf ⟨path, kind⟩ s) log)
      (⟨path, kind⟩ :: done) left where
  jobs_eq := by
    rw [jobsAmong_file hf hk, ← jobsAmong_congr (cfg.skeleton_filesAfter fs [⟨path, kind⟩]),
      h.jobs_eq, List.cons_append]
  turns := .cons hs h.turns
  files_eq := by
    rw [filesAfter_cons]
    exact h.files_eq
  announced_eq := by
    simp only [Run.after, List.filter_cons, h.announced_eq]
  ended := h.ended
  failed := h.failed

/-- Every run over some visits does a part of the jobs from the front. -/
theorem exists_course_handle (cfg : Settings) (fs : FileSystem) (visits : List Visit) :
    ∃ done left, cfg.Course fs visits (cfg.handle fs visits) done left := by
  induction fs, visits using handle_induction cfg with
  | nil fs =>
    exact ⟨[], [], rfl, .nil fs, (filesAfter_nil cfg fs).symm, rfl, fun _ ↦ ⟨rfl, rfl⟩,
      fun e he ↦ by cases he⟩
  | unlisted fs path depth fault rest =>
    exact ⟨[], [], rfl, .nil fs, (filesAfter_nil cfg fs).symm, rfl, fun he ↦ (by cases he),
      fun e he ↦ .inr ⟨rfl, he⟩⟩
  | passed fs path rest r hf ih =>
    obtain ⟨done, left, h⟩ := ih
    exact ⟨done, left, h.of_jobsAmong_eq (jobsAmong_passed hf) rfl rfl⟩
  | skipped fs path rest r hf hk ih =>
    obtain ⟨done, left, h⟩ := ih
    exact ⟨done, left, h.of_jobsAmong_eq (jobsAmong_skipped hk) rfl rfl⟩
  | stopped fs path kind rest e hf hk h =>
    refine ⟨[], ⟨path, kind⟩ :: cfg.jobsAmong fs rest, jobsAmong_file hf hk, .nil fs,
      (filesAfter_nil cfg fs).symm, rfl, fun he ↦ (by cases he), fun e' he ↦ .inl ?_⟩
    obtain rfl := Option.some.inj he
    exact ⟨⟨path, kind⟩, rfl, h⟩
  | done fs path kind rest b s r hk hr hs ih =>
    obtain ⟨done, left, h⟩ := ih
    exact ⟨_, left, h.cons (FileSystem.isFile_of_read hr) hk
      (readSource_eq_ok_iff.2 ⟨b, hr, hs⟩)⟩

theorem run_of_not_isDir (h : fs.isDir cfg.root = false) (before : ListingOrder) :
    cfg.run before fs = Run.stop fs [] (some (.rootMissing cfg.root)) := by
  rw [run, h]
  rfl

theorem run_of_isDir (h : fs.isDir cfg.root = true) (before : ListingOrder) :
    cfg.run before fs =
      { cfg.handle fs (fs.walk before cfg.root) with
        log := .starting cfg :: ((cfg.handle fs (fs.walk before cfg.root)).log ++
          closingLog (cfg.handle fs (fs.walk before cfg.root))) } := by
  rw [run, h]
  rfl

theorem exists_course (h : fs.isDir cfg.root = true) (before : ListingOrder) :
    ∃ done left, cfg.Course fs (fs.walk before cfg.root) (cfg.run before fs) done left := by
  obtain ⟨done, left, hc⟩ := cfg.exists_course_handle fs (fs.walk before cfg.root)
  exact ⟨done, left, hc.of_jobsAmong_eq rfl rfl (by rw [run_of_isDir h])⟩

theorem exists_turns (cfg : Settings) (before : ListingOrder) (fs : FileSystem) :
    ∃ js, cfg.Turns fs js (cfg.run before fs).outcomes ∧
      (cfg.run before fs).files = cfg.filesAfter fs js ∧
      (cfg.run before fs).announced = (cfg.run before fs).outcomes.filter (·.changed) := by
  cases hd : fs.isDir cfg.root with
  | false =>
    rw [run_of_not_isDir hd]
    exact ⟨[], .nil fs, (filesAfter_nil cfg fs).symm, rfl⟩
  | true =>
    obtain ⟨done, left, hc⟩ := exists_course hd before
    exact ⟨done, hc.turns, hc.files_eq, hc.announced_eq⟩

theorem Course.doneFirst
    (h : cfg.Course fs (fs.walk before cfg.root) r done left) :
    cfg.DoneFirst before fs done.length r := by
  have hj : cfg.jobs before fs = done ++ left := h.jobs_eq
  have htake : (cfg.jobs before fs).take done.length = done := by
    rw [hj, List.take_left]
  constructor
  case files_eq =>
    intro hd
    rw [htake, h.files_eq, filesAfter_eq_foldl hd]
  case files_eq_of_dryRun =>
    intro hd
    rw [h.files_eq, filesAfter_of_dryRun hd]
  case skeleton_eq => rw [h.files_eq, skeleton_filesAfter]
  case content?_eq =>
    intro loc hl
    rw [htake] at hl
    rw [h.files_eq, content?_filesAfter hl]
  case length_eq => exact h.turns.length_eq
  case outcome_eq =>
    intro i hi
    obtain ⟨s, hs, ho⟩ := h.turns.getElem? (List.getElem?_eq_getElem hi)
    refine ⟨done[i], s, ?_, ?_, ho⟩
    · rw [hj, List.getElem?_append_left hi, List.getElem?_eq_getElem hi]
    · rwa [hj, List.take_append_of_le_length (Nat.le_of_lt hi)]
  case announced_eq => exact h.announced_eq
  case walk_eq =>
    intro i
    exact FileSystem.walk_congr (cfg.skeleton_filesAfter fs _) before cfg.root

theorem doneFirst_stop (cfg : Settings) (before : ListingOrder) (fs : FileSystem)
    (log : List LogEntry) (failure : Option PatchError) :
    cfg.DoneFirst before fs 0 (Run.stop fs log failure) where
  files_eq _ := rfl
  files_eq_of_dryRun _ := rfl
  skeleton_eq := rfl
  content?_eq _ _ := rfl
  length_eq := rfl
  outcome_eq _ hi := absurd hi (Nat.not_lt_zero _)
  announced_eq := rfl
  walk_eq _ := FileSystem.walk_congr (cfg.skeleton_filesAfter fs _) before cfg.root

theorem isDir_of_failure_eq_none (h : (cfg.run before fs).failure = none) :
    fs.isDir cfg.root = true := by
  cases hd : fs.isDir cfg.root with
  | true => rfl
  | false =>
    rw [run_of_not_isDir hd] at h
    cases h

theorem course_of_failure_eq_none (h : (cfg.run before fs).failure = none) :
    cfg.Course fs (fs.walk before cfg.root) (cfg.run before fs) (cfg.jobs before fs) [] := by
  obtain ⟨done, left, hc⟩ := exists_course (isDir_of_failure_eq_none h) before
  obtain ⟨rfl, -⟩ := hc.ended h
  rwa [show cfg.jobs before fs = done from hc.jobs_eq.trans (List.append_nil done)]

theorem exists_reaches (cfg : Settings) (before : ListingOrder) (fs : FileSystem) :
    ∃ k, cfg.Reaches before fs k (cfg.run before fs) := by
  cases hd : fs.isDir cfg.root with
  | false =>
    rw [run_of_not_isDir hd]
    refine ⟨0, Nat.zero_le _, cfg.doneFirst_stop before fs _ _, fun he ↦ (by cases he),
      fun e he ↦ .inl ⟨hd, ?_, rfl⟩⟩
    exact (Option.some.inj he).symm
  | true =>
    obtain ⟨done, left, hc⟩ := exists_course hd before
    have hj : cfg.jobs before fs = done ++ left := hc.jobs_eq
    refine ⟨done.length, ?_, hc.doneFirst, fun he ↦ ?_, fun e he ↦ .inr ?_⟩
    · rw [hj, List.length_append]
      exact Nat.le_add_right _ _
    · rw [hj, (hc.ended he).1, List.append_nil]
    · rcases hc.failed e he with ⟨j, hhead, hread⟩ | ⟨rfl, hwalk⟩
      · refine .inl ⟨j, ?_, hread⟩
        rw [hj, List.getElem?_append_right (Nat.le_refl _), Nat.sub_self,
          ← List.head?_eq_getElem?]
        exact hhead
      · rw [hj, List.append_nil]
        exact .inr ⟨rfl, hwalk⟩

/-- A run without a failure leaves what editing each of its files in turn leaves, whether or not
their texts change, and tells of each of them. -/
theorem run_eq_edits (h : (cfg.run before fs).failure = none) :
    cfg.DoneFirst before fs (cfg.jobs before fs).length (cfg.run before fs) := by
  obtain ⟨done, left, hc⟩ := exists_course (isDir_of_failure_eq_none h) before
  obtain ⟨rfl, -⟩ := hc.ended h
  have hj : cfg.jobs before fs = done := hc.jobs_eq.trans (List.append_nil done)
  rw [hj]
  exact hc.doneFirst

def twoLinks : FileSystem where
  top := .dir [(['o'], .dir [(['S'], .file (SourceText.byteOrderMark ++ [0x22, 0x61, 0x22]))]),
    (['r'], .dir [("a.cs".toList, .link "/o/S".toList), ("b.cs".toList, .link "../o/S".toList)])]
  cwd := []

def signs : Settings := { root := ['r'], whitelist := ⟨['#']⟩ }

theorem run_eq_edits_twoLinks :
    (signs.run (fun _ _ _ ↦ true) twoLinks).failure = none ∧
      (signs.run (fun _ _ _ ↦ true) twoLinks).files.content? [['o'], ['S']] =
        some (SourceText.byteOrderMark ++ [0x22, 0x61, 0x23, 0x23, 0x22]) := by
  have h : (signs.run (fun _ _ _ ↦ true) twoLinks).failure = none := by cbv
  refine ⟨h, ?_⟩
  rw [(run_eq_edits h).files_eq rfl]
  cbv

def brokenSecond : FileSystem where
  top := .dir [(['r'], .dir [("a.cs".toList, .file [0x22, 0x61, 0x22]),
    ("b.cs".toList, .file [0x22, 0xff, 0x22]), ("c.cs".toList, .file [0x22, 0x61, 0x22])])]
  cwd := []

end Settings

end LiteralPatch
