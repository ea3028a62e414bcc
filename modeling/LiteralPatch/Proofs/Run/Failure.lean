import LiteralPatch.Proofs.Run.Edits

namespace LiteralPatch

namespace Settings

/-- What a run fails at behind its first `k` jobs, and how it tells. -/
inductive FailsAt (cfg : Settings) (before : ListingOrder) (fs : FileSystem) (k : Nat) (r : Run) :
    PatchError → Prop
  | closed {j : Job} {fault : Fault} (hj : (cfg.jobs before fs)[k]? = some j)
      (hr : r.files.read j.path = .error fault) :
      FailsAt cfg before fs k r (.readFailed j.path fault)
  | noText {j : Job} {b : Bytes} (hj : (cfg.jobs before fs)[k]? = some j)
      (hr : r.files.read j.path = .ok b) (hs : SourceText.decode? b = none) :
      FailsAt cfg before fs k r (.notUtf8 j.path)
  | walk {e : PatchError} (hk : k = (cfg.jobs before fs).length)
      (hw : walkFailure? (fs.walk before cfg.root) = some e) : FailsAt cfg before fs k r e

variable {cfg : Settings} {fs : FileSystem} {before : ListingOrder} {loc : Location} {b : Bytes}

theorem FailsAt.of_readSource {k : Nat} {r : Run} {j : Job} {e : PatchError}
    (hj : (cfg.jobs before fs)[k]? = some j) (h : r.files.readSource j.path = .error e) :
    cfg.FailsAt before fs k r e := by
  rcases readSource_eq_error_iff.1 h with ⟨fault, hr, rfl⟩ | ⟨b, hr, hs, rfl⟩
  · exact .closed hj hr
  · exact .noText hj hr hs

theorem content?_run_of_not_utf8 (hb : fs.content? loc = some b) (hn : Utf8.decode? b = none) :
    (cfg.run before fs).files.content? loc = some b := by
  have hs : SourceText.decode? b = none := by
    rw [← Option.isNone_iff_eq_none, ← Option.not_isSome, SourceText.isSome_decode?, hn]
    rfl
  cases hd : fs.isDir cfg.root with
  | false =>
    rw [run_of_not_isDir hd]
    exact hb
  | true =>
    obtain ⟨done, left, hc⟩ := exists_course hd before
    rw [hc.files_eq]
    exact content?_filesAfter_of_not_text hb hs

/-- A failed run has done its first `k` jobs in full, and told of these only. What fails is the file
of the next job, which does not open or is no text, or behind the last job something that cannot be
listed. Without a root the contents of the files do not even count. And no run touches a file that
is not UTF-8. -/
theorem run_failure_doneFirst (cfg : Settings) (before : ListingOrder) (fs : FileSystem) :
    (fs.isDir cfg.root = false → ∀ fs', fs'.skeleton = fs.skeleton →
      cfg.run before fs' = Run.stop fs' [] (some (.rootMissing cfg.root))) ∧
    (∀ e, fs.isDir cfg.root = true → (cfg.run before fs).failure = some e →
      ∃ k ≤ (cfg.jobs before fs).length, cfg.DoneFirst before fs k (cfg.run before fs) ∧
        cfg.FailsAt before fs k (cfg.run before fs) e) ∧
    ∀ loc b, fs.content? loc = some b → Utf8.decode? b = none →
      (cfg.run before fs).files.content? loc = some b := by
  refine ⟨fun hd fs' hfs ↦ ?_, fun e hd he ↦ ?_, fun loc b hb hn ↦ ?_⟩
  · exact run_of_not_isDir (FileSystem.isDir_congr hfs cfg.root ▸ hd) before
  · obtain ⟨done, left, hc⟩ := exists_course hd before
    have hj : cfg.jobs before fs = done ++ left := hc.jobs_eq
    refine ⟨done.length, ?_, hc.doneFirst, ?_⟩
    · rw [hj, List.length_append]
      exact Nat.le_add_right _ _
    · rcases hc.failed e he with ⟨j, hhead, hread⟩ | ⟨rfl, hwalk⟩
      · refine .of_readSource ?_ hread
        rw [hj, List.getElem?_append_right (Nat.le_refl _), Nat.sub_self,
          ← List.head?_eq_getElem?]
        exact hhead
      · refine .walk ?_ hwalk
        rw [hj, List.append_nil]
  · exact content?_run_of_not_utf8 hb hn

def threeTexts : FileSystem where
  top := .dir [(['r'], .dir [("a.cs".toList, .file [0x22, 0x61, 0x22]),
    (['d'], .dir [("b.cs".toList, .file [0x22, 0x61, 0x22])]),
    (['e'], .dir [("c.cs".toList, .file [0x22, 0x61, 0x22])])])]
  cwd := []

def closedFile : FileSystem :=
  { threeTexts with
    host := { closed? := fun loc ↦
      if loc = [['r'], ['d'], "b.cs".toList] then some .denied else none } }

def closedDirectory : FileSystem :=
  { threeTexts with
    host := { closed? := fun loc ↦ if loc = [['r'], ['d']] then some .denied else none } }

def lostFile : FileSystem :=
  { threeTexts with
    host := { lost? := fun loc ↦
      if loc = [['r'], ['d'], "b.cs".toList] then some .noEntry else none } }

theorem run_failure_doneFirst_second :
    ((signs.run (fun _ _ _ ↦ true) brokenSecond).failure = some (.notUtf8 "r/b.cs".toList) ∧
      (∃ k ≤ 3, signs.DoneFirst (fun _ _ _ ↦ true) brokenSecond k
        (signs.run (fun _ _ _ ↦ true) brokenSecond)) ∧
      (signs.run (fun _ _ _ ↦ true) brokenSecond).files.content? [['r'], "b.cs".toList] =
        some [0x22, 0xff, 0x22]) ∧
    ((signs.run (fun _ _ _ ↦ true) closedFile).failure =
        some (.readFailed "r/d/b.cs".toList .denied) ∧
      ∃ k ≤ 3, signs.DoneFirst (fun _ _ _ ↦ true) closedFile k
        (signs.run (fun _ _ _ ↦ true) closedFile)) ∧
    ((signs.run (fun _ _ _ ↦ true) closedDirectory).failure =
        some (.walkFailed "r/d".toList 1 .denied) ∧
      ∃ k ≤ 1, signs.DoneFirst (fun _ _ _ ↦ true) closedDirectory k
        (signs.run (fun _ _ _ ↦ true) closedDirectory)) ∧
    (signs.run (fun _ _ _ ↦ true) lostFile).failure =
        some (.walkFailed "r/d/b.cs".toList 2 .noEntry) ∧
      ∃ k ≤ 1, signs.DoneFirst (fun _ _ _ ↦ true) lostFile k
        (signs.run (fun _ _ _ ↦ true) lostFile) := by
  have h (fs : FileSystem) := run_failure_doneFirst signs (fun _ _ _ ↦ true) fs
  have hjobs : (signs.jobs (fun _ _ _ ↦ true) brokenSecond).length = 3 := by cbv
  have hjobs_file : (signs.jobs (fun _ _ _ ↦ true) closedFile).length = 3 := by cbv
  have hjobs_directory : (signs.jobs (fun _ _ _ ↦ true) closedDirectory).length = 1 := by cbv
  have hjobs_lost : (signs.jobs (fun _ _ _ ↦ true) lostFile).length = 1 := by cbv
  have hbroken : (signs.run (fun _ _ _ ↦ true) brokenSecond).failure =
      some (.notUtf8 "r/b.cs".toList) := by cbv
  have hfile : (signs.run (fun _ _ _ ↦ true) closedFile).failure =
      some (.readFailed "r/d/b.cs".toList .denied) := by cbv
  have hdirectory : (signs.run (fun _ _ _ ↦ true) closedDirectory).failure =
      some (.walkFailed "r/d".toList 1 .denied) := by cbv
  have hlost : (signs.run (fun _ _ _ ↦ true) lostFile).failure =
      some (.walkFailed "r/d/b.cs".toList 2 .noEntry) := by cbv
  refine ⟨⟨hbroken, ?_, (h brokenSecond).2.2 _ _ (by cbv) (by cbv)⟩, ⟨hfile, ?_⟩,
    ⟨hdirectory, ?_⟩, hlost, ?_⟩
  · obtain ⟨k, hk, hfirst, -⟩ := (h brokenSecond).2.1 _ (by cbv) hbroken
    exact ⟨k, hjobs ▸ hk, hfirst⟩
  · obtain ⟨k, hk, hfirst, -⟩ := (h closedFile).2.1 _ (by cbv) hfile
    exact ⟨k, hjobs_file ▸ hk, hfirst⟩
  · obtain ⟨k, hk, hfirst, -⟩ := (h closedDirectory).2.1 _ (by cbv) hdirectory
    exact ⟨k, hjobs_directory ▸ hk, hfirst⟩
  · obtain ⟨k, hk, hfirst, -⟩ := (h lostFile).2.1 _ (by cbv) hlost
    exact ⟨k, hjobs_lost ▸ hk, hfirst⟩

end Settings

end LiteralPatch
