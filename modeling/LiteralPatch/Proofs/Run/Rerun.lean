import LiteralPatch.Proofs.Declaration.Again
import LiteralPatch.Proofs.Run.Reach

namespace LiteralPatch

namespace Settings

def Settles (cfg : Settings) (kind : FileKind) : Prop :=
  ∀ s, (cfg.patch kind (cfg.patch kind s).content).content = (cfg.patch kind s).content

structure Spares (cfg : Settings) (before : ListingOrder) (fs : FileSystem) (loc : Location) :
    Prop where
  content?_eq : (cfg.run before fs).files.content? loc = fs.content? loc
  unchanged : ∀ o ∈ (cfg.run before fs).outcomes, fs.locate o.path = .ok loc →
    o.changed = false ∧ o.written = false

variable {cfg : Settings} {before : ListingOrder} {fs fs' : FileSystem} {kind : FileKind}
  {b : Bytes} {s : SourceText} {j : Job} {js : List Job} {os : List Outcome} {loc : Location}

theorem settles_targeted (hn : '\n' ∉ cfg.whitelist.raw)
    (hp : cfg.extent = .first → ')' ∉ cfg.whitelist.raw) : cfg.Settles .targeted := fun s ↦
  congrArg Edit.content (Declaration.setDefault_setDefault hn hp cfg.whitelist s)

theorem Settles.rewritten_rewritten (h : cfg.Settles kind) (b : Bytes) :
    cfg.rewritten kind (cfg.rewritten kind b) = cfg.rewritten kind b := by
  cases hs : SourceText.decode? b with
  | none => rw [rewritten_of_none hs, rewritten_of_none hs]
  | some s => exact rewritten_eq_self (decode?_rewritten hs) (h s.text)

theorem content_patch_of_rewritten_eq (hs : SourceText.decode? b = some s)
    (h : cfg.rewritten kind b = b) : (cfg.patch kind s.text).content = s.text := by
  have hd : SourceText.decode? (cfg.rewritten kind b) = some _ := decode?_rewritten hs
  rw [h, hs] at hd
  exact (congrArg SourceText.text (Option.some.inj hd)).symm

theorem jobs_congr (h : fs'.skeleton = fs.skeleton) (before : ListingOrder) :
    cfg.jobs before fs' = cfg.jobs before fs := by
  rw [jobs, jobs, FileSystem.walk_congr h, jobsAmong_congr h]

theorem Turns.unchanged (h : cfg.Turns fs js os) (hidle : cfg.IdleAt fs js loc) :
    ∀ o ∈ os, fs.locate o.path = .ok loc → o.changed = false ∧ o.written = false := by
  induction h with
  | nil fs => simp
  | @cons fs j js s os hs h ih =>
    have hidle₁ : cfg.IdleAt fs [j] loc := fun j' hj' ↦ hidle j' (by simp_all)
    have hidle₂ : cfg.IdleAt (cfg.filesAfter fs [j]) js loc := by
      simp only [IdleAt, locate_filesAfter, hidle₁.content?_filesAfter]
      exact fun j' hj' ↦ hidle j' (List.mem_cons_of_mem j hj')
    have ih := ih hidle₂
    simp only [locate_filesAfter] at ih
    refine List.forall_mem_cons.2 ⟨fun hl ↦ ?_, ih⟩
    obtain ⟨b, hr, hb⟩ := readSource_eq_ok_iff.1 hs
    obtain ⟨loc', hl', hc, -⟩ := FileSystem.read_eq_ok_iff.1 hr
    obtain rfl : loc' = loc := Except.ok.inj (hl'.symm.trans hl)
    have hsame : (cfg.patch j.kind s.text).content = s.text :=
      content_patch_of_rewritten_eq hb (hidle j List.mem_cons_self hl b hc)
    simp [outcomeOf, hsame]

theorem Settles.idleAt (hset : cfg.Settles kind) (hd : cfg.dryRun = false)
    (hk : ∀ j ∈ js, fs.locate j.path = .ok loc → j.kind = kind) :
    cfg.IdleAt (cfg.filesAfter fs js) js loc := by
  induction js generalizing fs with
  | nil => simp [IdleAt]
  | cons j js ih =>
    have hk' : ∀ i ∈ js, (cfg.filesAfter fs [j]).locate i.path = .ok loc → i.kind = kind := by
      simp only [locate_filesAfter]
      exact fun i hi ↦ hk i (List.mem_cons_of_mem j hi)
    rw [filesAfter_cons]
    intro i hi hl b hb
    rcases List.mem_cons.1 hi with rfl | hi
    · rw [locate_filesAfter, locate_filesAfter] at hl
      have hkind : i.kind = kind := hk i List.mem_cons_self hl
      have hfix : ∀ b, (cfg.filesAfter fs [i]).content? loc = some b →
          cfg.rewritten kind b = b := by
        intro b hb
        rw [filesAfter_eq_foldl hd, List.foldl_cons, List.foldl_nil, edit,
          FileSystem.content?_amend hl, hkind] at hb
        obtain ⟨b', -, rfl⟩ := Option.map_eq_some_iff.1 hb
        exact hset.rewritten_rewritten b'
      -- The turns behind that of `i` would not change the file, so it is as `i` has left it.
      have hidle : cfg.IdleAt (cfg.filesAfter fs [i]) js loc := fun i' hi' hl' ↦
        hk' i' hi' hl' ▸ hfix
      rw [hidle.content?_filesAfter] at hb
      rw [hkind, hfix b hb]
    · exact ih hk' i hi hl b hb

/-- A second run goes as far as the first one, and does nothing to a file to which only jobs lead
that settle it. -/
theorem Settles.run_again (hset : cfg.Settles kind) (hd : cfg.dryRun = false)
    (hfs' : (cfg.run before fs).files = fs') :
    (cfg.run before fs').failure = (cfg.run before fs).failure ∧
      (cfg.run before fs').outcomes.map (fun o ↦ Job.mk o.path o.kind) =
        (cfg.run before fs).outcomes.map (fun o ↦ Job.mk o.path o.kind) ∧
      ∀ loc, (∀ j ∈ cfg.jobs before fs, fs.locate j.path = .ok loc → j.kind = kind) →
        cfg.Spares before fs' loc := by
  cases hdir : fs.isDir cfg.root with
  | false =>
    have hstop := run_of_not_isDir hdir before
    obtain rfl : fs = fs' := hfs' ▸ (congrArg Run.files hstop).symm
    refine ⟨rfl, rfl, fun loc _ ↦ ⟨?_, ?_⟩⟩
    · rw [hstop]
      rfl
    · rw [hstop]
      exact fun o ho ↦ (by cases ho)
  | true =>
    obtain ⟨done, left, hc⟩ := exists_course hdir before
    obtain rfl : fs' = cfg.filesAfter fs done := hfs' ▸ hc.files_eq
    have hsk := cfg.skeleton_filesAfter fs done
    obtain ⟨done', left', hc'⟩ := exists_course ((FileSystem.isDir_congr hsk _).trans hdir) before
    have hjobs : cfg.jobsAmong (cfg.filesAfter fs done) ((cfg.filesAfter fs done).walk before
        cfg.root) = cfg.jobsAmong fs (fs.walk before cfg.root) := jobs_congr hsk before
    have hdone : done' = done := by
      rw [hc'.done_eq, hjobs]
      simp only [readFailure?_filesAfter]
      exact hc.done_eq.symm
    subst hdone
    refine ⟨?_, ?_, fun loc hk ↦ ?_⟩
    · rw [hc'.failure_eq, hc.failure_eq, hjobs, FileSystem.walk_congr hsk]
      simp only [readFailure?_filesAfter]
    · rw [hc'.turns.jobs_eq, hc.turns.jobs_eq]
    · have hj : cfg.jobs before fs = done' ++ left := hc.jobs_eq
      rw [hj] at hk
      have hidle : cfg.IdleAt (cfg.filesAfter fs done') done' loc :=
        hset.idleAt hd fun j hj ↦ hk j (List.mem_append_left left hj)
      exact ⟨hc'.files_eq ▸ hidle.content?_filesAfter, hc'.turns.unchanged hidle⟩

/-- Of two default values set one after the other the last one stays, as if the first had not been
set. So the same value set again changes nothing, and a second run that sets it gets as far as the
first one and leaves the files as they are that no other edit leads to. -/
theorem setDefault_again (extent : ParenExtent) (w : Whitelist) (hn : '\n' ∉ w.raw)
    (hp : extent = .first → ')' ∉ w.raw) :
    (∀ w' s, Declaration.setDefault extent w' (Declaration.setDefault extent w s).content =
      Declaration.setDefault extent w' s) ∧
    (∀ s, (Declaration.setDefault extent w (Declaration.setDefault extent w s).content).content =
      (Declaration.setDefault extent w s).content) ∧
    ∀ cfg : Settings, cfg.extent = extent → cfg.whitelist = w → cfg.dryRun = false →
      ∀ before fs fs', (cfg.run before fs).files = fs' →
        (cfg.run before fs').failure = (cfg.run before fs).failure ∧
        (cfg.run before fs').outcomes.map (fun o ↦ Job.mk o.path o.kind) =
          (cfg.run before fs).outcomes.map (fun o ↦ Job.mk o.path o.kind) ∧
        ∀ loc, (∀ j ∈ cfg.jobs before fs, fs.locate j.path = .ok loc → j.kind = .targeted) →
          cfg.Spares before fs' loc := by
  have hlast (w' : Whitelist) (s : Text) := Declaration.setDefault_setDefault hn hp w' s
  refine ⟨hlast, fun s ↦ congrArg Edit.content (hlast w s), ?_⟩
  intro cfg hextent hwhitelist hd before fs fs' hfs'
  subst hextent hwhitelist
  exact (settles_targeted hn hp).run_again hd hfs'

def oneDeclaration : FileSystem where
  top := .dir [(['r'], .dir [("Extensions.cs".toList,
    .file ("string allowSpecialChars) )".toList.map fun c ↦ UInt8.ofNat c.toNat))])]
  cwd := []

def throughFirst : Settings := { signs with extent := .first }

theorem setDefault_again_sign :
    ('\n' ∉ throughFirst.whitelist.raw ∧ ')' ∉ throughFirst.whitelist.raw) ∧
      Declaration.setDefault .first ⟨['!']⟩ (Declaration.setDefault .first throughFirst.whitelist
        "string allowSpecialChars) )".toList).content =
          ⟨"string allowSpecialChars = \"!\") )".toList, 1⟩ ∧
      (throughFirst.run (fun _ _ _ ↦ true) oneDeclaration).outcomes =
        [⟨"r/Extensions.cs".toList, .targeted, 1, true, true⟩] ∧
      ∀ fs', (throughFirst.run (fun _ _ _ ↦ true) oneDeclaration).files = fs' →
        throughFirst.Spares (fun _ _ _ ↦ true) fs' [['r'], "Extensions.cs".toList] := by
  have hset (c : Char) : Declaration.setDefault .first ⟨[c]⟩ "string allowSpecialChars) )".toList =
      Declaration.setInParts ⟨[c]⟩ "string allowSpecialChars) )".toList :=
    Declaration.setDefault_first_line _ (by decide)
  have hraw : '\n' ∉ throughFirst.whitelist.raw ∧ ')' ∉ throughFirst.whitelist.raw := by decide
  have hdir : oneDeclaration.isDir throughFirst.root = true := by cbv
  have hwalk : oneDeclaration.walk (fun _ _ _ ↦ true) throughFirst.root =
      [.entry ['r'], .entry "r/Extensions.cs".toList] := by cbv
  have hread : oneDeclaration.readSource "r/Extensions.cs".toList =
      .ok ⟨"string allowSpecialChars) )".toList, false⟩ := by cbv
  have hkind : throughFirst.kind? "r/Extensions.cs".toList = some .targeted := by cbv
  have hjobs : throughFirst.jobs (fun _ _ _ ↦ true) oneDeclaration =
      [⟨"r/Extensions.cs".toList, .targeted⟩] := by cbv
  obtain ⟨hlast, -, hcfg⟩ := setDefault_again .first throughFirst.whitelist hraw.1 fun _ ↦ hraw.2
  refine ⟨hraw, ?_, ?_, fun fs' hfs' ↦ ?_⟩
  · rw [hlast, hset]
    decide
  · obtain ⟨b, hb, hs⟩ := readSource_eq_ok_iff.1 hread
    rw [run_of_isDir hdir]
    simp only [hwalk]
    rw [handle_passed _ (by cbv), handle_done [] hkind hb hs]
    change [throughFirst.outcomeOf _ _] = _
    rw [outcomeOf, patch_targeted, throughFirst, signs, hset]
    decide
  · refine (hcfg throughFirst rfl rfl rfl _ _ _ hfs').2.2 _ fun j hj _ ↦ ?_
    obtain rfl := List.mem_singleton.1 (hjobs ▸ hj)
    rfl

end Settings

end LiteralPatch
