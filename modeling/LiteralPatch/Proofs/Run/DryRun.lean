import LiteralPatch.Proofs.Run.Edits

namespace LiteralPatch

def Outcome.carriedOut (o : Outcome) : Outcome := { o with written := o.changed }

/-- Both runs do the same, except that one of them writes. -/
structure Run.Foretells (dry real : Run) : Prop where
  failure_eq : real.failure = dry.failure
  outcomes_eq : real.outcomes = dry.outcomes.map Outcome.carriedOut
  announced_eq : real.announced = dry.announced.map Outcome.carriedOut
  log_eq : real.log = dry.log

namespace Settings

def dry (cfg : Settings) : Settings := { cfg with dryRun := true }

def real (cfg : Settings) : Settings := { cfg with dryRun := false }

/-- The files `fs'` differ from `fs` in files seen before only, and these are texts in `fs`. -/
structure DiffersIn (seen : List (Except Fault Location)) (fs fs' : FileSystem) : Prop where
  skeleton_eq : fs'.skeleton = fs.skeleton
  content?_eq : ∀ loc, .ok loc ∉ seen → fs'.content? loc = fs.content? loc
  text : ∀ loc, .ok loc ∈ seen → ∃ b s, fs.content? loc = some b ∧ SourceText.decode? b = some s

variable {cfg : Settings} {fs fs' : FileSystem} {seen : List (Except Fault Location)}
  {path : Text} {kind : FileKind} {b : Bytes} {s : SourceText} {loc : Location}

theorem DiffersIn.read_eq (h : DiffersIn seen fs fs') (hl : fs.locate path ∉ seen)
    (hr : fs.read path = .ok b) : fs'.read path = .ok b := by
  obtain ⟨loc, hloc, hb, hc⟩ := FileSystem.read_eq_ok_iff.1 hr
  rw [hloc] at hl
  refine FileSystem.read_eq_ok_iff.2 ⟨loc, ?_, ?_, ?_⟩
  · rw [FileSystem.locate_congr h.skeleton_eq, hloc]
  · rw [h.content?_eq loc hl, hb]
  · rw [FileSystem.host_congr h.skeleton_eq, hc]

theorem DiffersIn.not_mem (h : DiffersIn seen fs fs') (hr : fs.read path = .ok b)
    (hn : SourceText.decode? b = none) : fs.locate path ∉ seen := by
  obtain ⟨loc, hloc, hb, -⟩ := FileSystem.read_eq_ok_iff.1 hr
  rw [hloc]
  intro hm
  obtain ⟨b', s, hb', hs⟩ := h.text loc hm
  obtain rfl : b = b' := Option.some.inj (hb.symm.trans hb')
  rw [hn] at hs
  cases hs

theorem DiffersIn.readSource_eq_error {e : PatchError} (h : DiffersIn seen fs fs')
    (hf : fs.isFile path = true) (he : fs.readSource path = .error e) :
    fs'.readSource path = .error e := by
  rw [readSource_eq_error_iff] at he ⊢
  rcases he with ⟨fault, hr, rfl⟩ | ⟨b, hr, hn, rfl⟩
  · obtain ⟨loc, hloc, hc⟩ := (FileSystem.read_eq_error_iff hf).1 hr
    have hf' := (FileSystem.isFile_congr h.skeleton_eq path).trans hf
    refine .inl ⟨fault, (FileSystem.read_eq_error_iff hf').2 ⟨loc, ?_, ?_⟩, rfl⟩
    · rw [FileSystem.locate_congr h.skeleton_eq, hloc]
    · rw [FileSystem.host_congr h.skeleton_eq, hc]
  · exact .inr ⟨b, h.read_eq (h.not_mem hr hn) hr, hn, rfl⟩

theorem DiffersIn.edit (h : DiffersIn seen fs fs') (hr : fs.read path = .ok b)
    (hs : SourceText.decode? b = some s) :
    DiffersIn (seen ++ [fs.locate path]) fs (cfg.edit fs' ⟨path, kind⟩) where
  skeleton_eq := (fs'.skeleton_amend path _).trans h.skeleton_eq
  content?_eq loc hl := by
    rw [List.mem_append, List.mem_singleton, not_or] at hl
    have hne : fs'.locate path ≠ .ok loc := by
      rw [FileSystem.locate_congr h.skeleton_eq]
      exact Ne.symm hl.2
    exact (FileSystem.content?_amend_of_ne hne _).trans (h.content?_eq loc hl.1)
  text loc hl := by
    rw [List.mem_append, List.mem_singleton] at hl
    rcases hl with hl | hl
    · exact h.text loc hl
    · obtain ⟨there, hto, hb, -⟩ := FileSystem.read_eq_ok_iff.1 hr
      obtain rfl : loc = there := Except.ok.inj (hl.trans hto)
      exact ⟨b, s, hb, hs⟩

theorem carriedOut_outcomeOf (j : Job) (s : SourceText) :
    (cfg.dry.outcomeOf j s).carriedOut = cfg.real.outcomeOf j s := by
  have hp : cfg.dry.patch j.kind s.text = cfg.real.patch j.kind s.text := rfl
  simp only [outcomeOf, Outcome.carriedOut, hp]
  simp [real]

theorem foretells_after {d r : Run} (h : d.Foretells r) (j : Job) (s : SourceText) :
    (d.after (cfg.dry.outcomeOf j s) (cfg.dry.turnLog j s)).Foretells
      (r.after (cfg.real.outcomeOf j s) (cfg.real.turnLog j s)) where
  failure_eq := h.failure_eq
  outcomes_eq := by
    rw [Run.after, Run.after, List.map_cons, carriedOut_outcomeOf, h.outcomes_eq]
  announced_eq := by
    have hc : (cfg.real.outcomeOf j s).changed = (cfg.dry.outcomeOf j s).changed := rfl
    rw [Run.after, Run.after, hc, h.announced_eq]
    split
    · rw [List.map_cons, carriedOut_outcomeOf]
    · rfl
  log_eq := congrArg (cfg.dry.turnLog j s ++ ·) h.log_eq

theorem closingLog_eq {d r : Run} (h : d.Foretells r) : closingLog r = closingLog d := by
  have hc : r.outcomes.countP (·.changed) = d.outcomes.countP (·.changed) := by
    rw [h.outcomes_eq, List.countP_map]
    rfl
  rw [closingLog, closingLog, h.failure_eq, hc, h.outcomes_eq, List.length_map]

/-- The run that writes sees each file as the dry run does: what it wrote before it has put into
files seen before, and no path leads to one of these again. -/
theorem foretells_handle (cfg : Settings) (fs : FileSystem) (visits : List Visit) :
    ∀ seen fs', DiffersIn seen fs fs' →
      (seen ++ (cfg.dry.handle fs visits).outcomes.map fun o ↦ fs.locate o.path).Nodup →
        (cfg.dry.handle fs visits).Foretells (cfg.real.handle fs' visits) := by
  induction fs, visits using handle_induction cfg.dry with
  | nil fs => exact fun _ _ _ _ ↦ ⟨rfl, rfl, rfl, rfl⟩
  | unlisted fs path depth fault rest => exact fun _ _ _ _ ↦ ⟨rfl, rfl, rfl, rfl⟩
  | passed fs path rest r hf ih =>
    intro seen fs' hd hn
    rw [handle_passed rest ((FileSystem.isFile_congr hd.skeleton_eq path).trans hf)]
    exact ih seen fs' hd hn
  | skipped fs path rest r hf hk ih =>
    intro seen fs' hd hn
    obtain ⟨he, ho, ha, hl⟩ := ih seen fs' hd hn
    have hk' : cfg.real.kind? path = none := hk
    rw [handle_skipped rest ((FileSystem.isFile_congr hd.skeleton_eq path).trans hf) hk']
    exact ⟨he, ho, ha, congrArg (LogEntry.skipping path :: ·) hl⟩
  | stopped fs path kind rest e hf hk he =>
    intro seen fs' hd hn
    have hf' := (FileSystem.isFile_congr hd.skeleton_eq path).trans hf
    have hk' : cfg.real.kind? path = some kind := hk
    rw [handle_stopped rest hf' hk' (hd.readSource_eq_error hf he)]
    exact ⟨rfl, rfl, rfl, rfl⟩
  | done fs path kind rest b s r hk hr hs ih =>
    intro seen fs' hd hn
    rw [filesAfter_of_dryRun rfl] at ih
    rw [Run.after, List.map_cons] at hn
    have hnew : fs.locate path ∉ seen := fun hm ↦
      (List.nodup_append.1 hn).2.2 _ hm _ List.mem_cons_self rfl
    have hnext : (seen ++ [fs.locate path] ++ r.outcomes.map fun o ↦ fs.locate o.path).Nodup := by
      rwa [List.append_assoc]
    have hk' : cfg.real.kind? path = some kind := hk
    -- The file counts as seen from now on, whether or not its text changes.
    rw [handle_done rest hk' (hd.read_eq hnew hr) hs, filesAfter_eq_foldl rfl]
    exact foretells_after (ih _ _ (hd.edit hr hs) hnext) ⟨path, kind⟩ s

theorem written_of_mem_turns {js : List Job} {os : List Outcome} (h : cfg.dry.Turns fs js os)
    {o : Outcome} (ho : o ∈ os) : o.written = false := by
  induction h with
  | nil fs => cases ho
  | cons hs h ih =>
    rcases List.mem_cons.1 ho with rfl | ho
    · exact Bool.and_false _
    · exact ih ho

theorem jobs_dry (cfg : Settings) (before : ListingOrder) (fs : FileSystem) :
    cfg.dry.jobs before fs = cfg.jobs before fs := by
  have h (visits : List Visit) : cfg.dry.jobsAmong fs visits = cfg.jobsAmong fs visits := by
    induction visits with
    | nil => rfl
    | cons visit rest ih =>
      have hk (path : Text) : cfg.dry.kind? path = cfg.kind? path := rfl
      cases visit with
      | unlisted path depth fault => rfl
      | entry path => rw [jobsAmong, jobsAmong, ih, hk]
  exact h (fs.walk before cfg.root)

theorem Course.nodup {visits : List Visit} {r : Run} {done left : List Job}
    (h : cfg.Course fs visits r done left)
    (hn : ((cfg.jobsAmong fs visits).map fun j ↦ fs.locate j.path).Nodup) :
    (r.outcomes.map fun o ↦ fs.locate o.path).Nodup := by
  rw [h.jobs_eq, List.map_append] at hn
  have hdone := (List.nodup_append.1 hn).1
  rw [← h.turns.jobs_eq, List.map_map] at hdone
  exact hdone

/-- If no two of the paths that a run has to handle lead to one file, the dry run leaves all files
as they are and foretells the run that writes: the same failure at the same entry or none, the same
outcomes but for what is written, the same announcements, and behind its first entry the same
log. -/
theorem run_dry_foretells (before : ListingOrder) (h : cfg.JobsApart before fs) :
    (cfg.dry.run before fs).files = fs ∧
    (cfg.real.run before fs).failure = (cfg.dry.run before fs).failure ∧
    (cfg.real.run before fs).outcomes =
      (cfg.dry.run before fs).outcomes.map Outcome.carriedOut ∧
    (∀ o ∈ (cfg.dry.run before fs).outcomes, o.written = false) ∧
    (cfg.real.run before fs).announced =
      (cfg.dry.run before fs).announced.map Outcome.carriedOut ∧
    (cfg.real.run before fs).log.tail = (cfg.dry.run before fs).log.tail := by
  cases hd : fs.isDir cfg.root with
  | false =>
    have hdry : fs.isDir cfg.dry.root = false := hd
    have hreal : fs.isDir cfg.real.root = false := hd
    rw [run_of_not_isDir hdry, run_of_not_isDir hreal]
    exact ⟨rfl, rfl, rfl, fun o ho ↦ (by cases ho), rfl, rfl⟩
  | true =>
    have hdry : fs.isDir cfg.dry.root = true := hd
    have hreal : fs.isDir cfg.real.root = true := hd
    obtain ⟨done, left, hc⟩ := exists_course hdry before
    rw [JobsApart, ← jobs_dry] at h
    have hn := hc.nodup h
    rw [run_of_isDir hdry] at hn hc ⊢
    rw [run_of_isDir hreal]
    have hf : (cfg.dry.handle fs (fs.walk before cfg.dry.root)).Foretells
        (cfg.real.handle fs (fs.walk before cfg.real.root)) :=
      cfg.foretells_handle fs _ [] fs ⟨rfl, fun _ _ ↦ rfl, fun _ hm ↦ (by cases hm)⟩ hn
    refine ⟨?_, hf.failure_eq, hf.outcomes_eq, fun o ho ↦ written_of_mem_turns hc.turns ho,
      hf.announced_eq, ?_⟩
    · rw [hc.files_eq, filesAfter_of_dryRun rfl]
    · rw [List.tail_cons, List.tail_cons, hf.log_eq, closingLog_eq hf]

theorem run_dry_foretells_brokenSecond :
    (signs.dry.run (fun _ _ _ ↦ true) brokenSecond).failure =
        some (.notUtf8 "r/b.cs".toList) ∧
      (signs.real.run (fun _ _ _ ↦ true) brokenSecond).failure =
        some (.notUtf8 "r/b.cs".toList) ∧
      (signs.dry.run (fun _ _ _ ↦ true) brokenSecond).files = brokenSecond ∧
      (signs.real.run (fun _ _ _ ↦ true) brokenSecond).outcomes =
        (signs.dry.run (fun _ _ _ ↦ true) brokenSecond).outcomes.map Outcome.carriedOut := by
  have hfail : (signs.dry.run (fun _ _ _ ↦ true) brokenSecond).failure =
      some (.notUtf8 "r/b.cs".toList) := by cbv
  have hapart : signs.JobsApart (fun _ _ _ ↦ true) brokenSecond := by
    have hlocs : (signs.jobs (fun _ _ _ ↦ true) brokenSecond).map
        (fun j ↦ brokenSecond.locate j.path) = [.ok [['r'], "a.cs".toList],
          .ok [['r'], "b.cs".toList], .ok [['r'], "c.cs".toList]] := by cbv
    rw [JobsApart, hlocs]
    decide
  have h := run_dry_foretells (fun _ _ _ ↦ true) hapart
  exact ⟨hfail, h.2.1.trans hfail, h.1, h.2.2.1⟩

end Settings

end LiteralPatch
