import LiteralPatch.Proofs.FileSystem.Amend
import LiteralPatch.Proofs.SourceText
import LiteralPatch.Run

namespace LiteralPatch

structure Job where
  path : Text
  kind : FileKind
  deriving DecidableEq, Repr

namespace Settings

/-- The content of a file with its text edited. A byte-order mark stays in front, and bytes that
are no text stay as they are. -/
def rewritten (cfg : Settings) (kind : FileKind) (content : Bytes) : Bytes :=
  match SourceText.decode? content with
  | some s => SourceText.encode { s with text := (cfg.patch kind s.text).content }
  | none => content

/-- Edits the file that the path of a job leads to, whether or not its text changes. -/
def edit (cfg : Settings) (fs : FileSystem) (j : Job) : FileSystem :=
  fs.amend j.path (cfg.rewritten j.kind)

def filesAfter (cfg : Settings) (fs : FileSystem) (jobs : List Job) : FileSystem :=
  if cfg.dryRun then fs else jobs.foldl cfg.edit fs

/-- The jobs that lead to the file at a location would not change it. -/
def IdleAt (cfg : Settings) (fs : FileSystem) (js : List Job) (loc : Location) : Prop :=
  ∀ j ∈ js, fs.locate j.path = .ok loc →
    ∀ b, fs.content? loc = some b → cfg.rewritten j.kind b = b

def outcomeOf (cfg : Settings) (j : Job) (s : SourceText) : Outcome where
  path := j.path
  kind := j.kind
  hits := (cfg.patch j.kind s.text).hits
  changed := decide ((cfg.patch j.kind s.text).content ≠ s.text)
  written := decide ((cfg.patch j.kind s.text).content ≠ s.text) && !cfg.dryRun

def turnLog (cfg : Settings) (j : Job) (s : SourceText) : List LogEntry :=
  .processing j.path j.kind :: editLog j.path j.kind (cfg.patch j.kind s.text)

variable {cfg : Settings} {fs fs' : FileSystem} {path : Text} {kind : FileKind} {b : Bytes}
  {s : SourceText} {j : Job} {js : List Job} {loc : Location}

theorem rewritten_of_decode? (h : SourceText.decode? b = some s) :
    cfg.rewritten kind b =
      SourceText.encode { s with text := (cfg.patch kind s.text).content } := by
  rw [rewritten]
  simp only [h]

theorem rewritten_of_none (h : SourceText.decode? b = none) : cfg.rewritten kind b = b := by
  rw [rewritten]
  simp only [h]

theorem rewritten_eq_self (h : SourceText.decode? b = some s)
    (hp : (cfg.patch kind s.text).content = s.text) : cfg.rewritten kind b = b := by
  rw [rewritten_of_decode? h, hp]
  exact SourceText.encode_of_decode? h

theorem readSource_eq_ok_iff :
    fs.readSource path = .ok s ↔ ∃ b, fs.read path = .ok b ∧ SourceText.decode? b = some s := by
  rw [FileSystem.readSource]
  cases fs.read path with
  | error fault => simp
  | ok b => cases hb : SourceText.decode? b <;> simp [hb]

theorem readSource_eq_error_iff {e : PatchError} :
    fs.readSource path = .error e ↔
      (∃ fault, fs.read path = .error fault ∧ e = .readFailed path fault) ∨
        ∃ b, fs.read path = .ok b ∧ SourceText.decode? b = none ∧ e = .notUtf8 path := by
  rw [FileSystem.readSource]
  cases fs.read path with
  | error fault => simp [eq_comm]
  | ok b => cases hb : SourceText.decode? b <;> simp [hb, eq_comm]

@[simp] theorem filesAfter_nil (cfg : Settings) (fs : FileSystem) : cfg.filesAfter fs [] = fs := by
  rw [filesAfter]
  exact ite_self fs

theorem filesAfter_cons (cfg : Settings) (fs : FileSystem) (j : Job) (js : List Job) :
    cfg.filesAfter fs (j :: js) = cfg.filesAfter (cfg.filesAfter fs [j]) js := by
  simp only [filesAfter]
  split <;> rfl

theorem filesAfter_eq_foldl (h : cfg.dryRun = false) (fs : FileSystem) (js : List Job) :
    cfg.filesAfter fs js = js.foldl cfg.edit fs := by
  rw [filesAfter, h, if_neg (by decide)]

theorem filesAfter_of_dryRun (h : cfg.dryRun = true) (fs : FileSystem) (js : List Job) :
    cfg.filesAfter fs js = fs := by
  rw [filesAfter, h, if_pos rfl]

/-- What a turn keeps, any number of turns keep. -/
theorem filesAfter_induction {P : FileSystem → Prop} (h : ∀ fs j, j ∈ js → P fs → P (cfg.edit fs j))
    (hfs : P fs) : P (cfg.filesAfter fs js) := by
  rw [filesAfter]
  split
  · exact hfs
  · exact List.foldlRecOn js cfg.edit hfs fun fs hp j hj ↦ h fs j hj hp

theorem skeleton_filesAfter (cfg : Settings) (fs : FileSystem) (js : List Job) :
    (cfg.filesAfter fs js).skeleton = fs.skeleton :=
  filesAfter_induction (P := fun fs' ↦ fs'.skeleton = fs.skeleton)
    (fun fs j _ h ↦ (fs.skeleton_amend j.path _).trans h) rfl

theorem locate_filesAfter (cfg : Settings) (fs : FileSystem) (js : List Job) (path : Text) :
    (cfg.filesAfter fs js).locate path = fs.locate path :=
  FileSystem.locate_congr (cfg.skeleton_filesAfter fs js) path

theorem map_content?_edit {β : Type} {f : Bytes → β}
    (h : ∀ kind b, f (cfg.rewritten kind b) = f b) (fs : FileSystem) (j : Job) (loc : Location) :
    ((cfg.edit fs j).content? loc).map f = (fs.content? loc).map f := by
  by_cases hl : fs.locate j.path = .ok loc
  · rw [edit, FileSystem.content?_amend hl, Option.map_map]
    congr 1
    funext b
    exact h j.kind b
  · rw [edit, FileSystem.content?_amend_of_ne hl]

theorem map_content?_filesAfter {β : Type} {f : Bytes → β}
    (h : ∀ kind b, f (cfg.rewritten kind b) = f b) (fs : FileSystem) (js : List Job)
    (loc : Location) : ((cfg.filesAfter fs js).content? loc).map f = (fs.content? loc).map f :=
  filesAfter_induction (P := fun fs' ↦ (fs'.content? loc).map f = (fs.content? loc).map f)
    (fun fs' j _ hp ↦ (map_content?_edit h fs' j loc).trans hp) rfl

theorem IdleAt.content?_filesAfter (h : cfg.IdleAt fs js loc) :
    (cfg.filesAfter fs js).content? loc = fs.content? loc := by
  refine (filesAfter_induction
    (P := fun fs' ↦ fs'.skeleton = fs.skeleton ∧ fs'.content? loc = fs.content? loc)
    (fun fs' j hj hp ↦ ⟨(fs'.skeleton_amend j.path _).trans hp.1, ?_⟩) ⟨rfl, rfl⟩).2
  have hloc := FileSystem.locate_congr hp.1 j.path
  by_cases hl : fs.locate j.path = .ok loc
  · rw [edit, FileSystem.content?_amend (hloc.trans hl), hp.2]
    cases hb : fs.content? loc with
    | none => rfl
    | some b => rw [Option.map_some, h j hj hl b hb]
  · rw [edit, FileSystem.content?_amend_of_ne (hloc ▸ hl), hp.2]

theorem content?_filesAfter (h : ∀ j ∈ js, fs.locate j.path ≠ .ok loc) :
    (cfg.filesAfter fs js).content? loc = fs.content? loc :=
  IdleAt.content?_filesAfter fun j hj hl ↦ absurd hl (h j hj)

theorem content?_filesAfter_of_not_text (hb : fs.content? loc = some b)
    (hn : SourceText.decode? b = none) : (cfg.filesAfter fs js).content? loc = some b := by
  have hidle : cfg.IdleAt fs js loc := by
    intro j _ _ b' hb'
    obtain rfl := Option.some.inj (hb.symm.trans hb')
    exact rewritten_of_none hn
  rw [hidle.content?_filesAfter, hb]

theorem patchFile_of_decode? (hr : fs.read path = .ok b) (hs : SourceText.decode? b = some s) :
    cfg.patchFile fs path kind = ⟨cfg.filesAfter fs [⟨path, kind⟩],
      cfg.turnLog ⟨path, kind⟩ s, .ok (cfg.outcomeOf ⟨path, kind⟩ s)⟩ := by
  have hsource : fs.readSource path = .ok s := readSource_eq_ok_iff.2 ⟨b, hr, hs⟩
  have hwrite : fs.writeSource path { s with text := (cfg.patch kind s.text).content } =
      .ok (cfg.edit fs ⟨path, kind⟩) := by
    rw [FileSystem.writeSource, FileSystem.write_eq_amend hr (rewritten_of_decode? hs)]
    rfl
  rw [patchFile, hsource]
  cases hd : cfg.dryRun with
  | true =>
    rw [filesAfter_of_dryRun hd]
    simp [outcomeOf, turnLog, hd]
  | false =>
    rw [filesAfter_eq_foldl hd]
    by_cases hc : (cfg.patch kind s.text).content = s.text
    · -- Nothing is written, and the edit would have written the same bytes.
      have hsame : cfg.edit fs ⟨path, kind⟩ = fs :=
        FileSystem.amend_eq_self hr (rewritten_eq_self hs hc)
      simp [outcomeOf, turnLog, hc, hsame]
    · simp [outcomeOf, turnLog, hc, hd, hwrite]

theorem patchFile_of_error {e : PatchError} (h : fs.readSource path = .error e) :
    cfg.patchFile fs path kind = ⟨fs, [.processing path kind], .error e⟩ := by
  rw [patchFile, h]

section Handle

variable (rest : List Visit)

theorem handle_passed (hf : fs.isFile path = false) :
    cfg.handle fs (.entry path :: rest) = cfg.handle fs rest := by
  rw [handle, hf]
  rfl

theorem handle_skipped (hf : fs.isFile path = true) (hk : cfg.kind? path = none) :
    cfg.handle fs (.entry path :: rest) =
      { cfg.handle fs rest with log := .skipping path :: (cfg.handle fs rest).log } := by
  rw [handle, hf, hk]
  rfl

theorem handle_stopped {e : PatchError} (hf : fs.isFile path = true)
    (hk : cfg.kind? path = some kind) (h : fs.readSource path = .error e) :
    cfg.handle fs (.entry path :: rest) = Run.stop fs [.processing path kind] (some e) := by
  rw [handle, hf, hk]
  simp only [patchFile_of_error h]
  rfl

theorem handle_done (hk : cfg.kind? path = some kind) (hr : fs.read path = .ok b)
    (hs : SourceText.decode? b = some s) :
    cfg.handle fs (.entry path :: rest) =
      (cfg.handle (cfg.filesAfter fs [⟨path, kind⟩]) rest).after
        (cfg.outcomeOf ⟨path, kind⟩ s) (cfg.turnLog ⟨path, kind⟩ s) := by
  rw [handle, FileSystem.isFile_of_read hr, hk]
  simp only [patchFile_of_decode? hr hs]
  rfl

end Handle

/-- Everything that can happen at a visit. -/
@[elab_as_elim]
theorem handle_induction {P : FileSystem → List Visit → Run → Prop} (cfg : Settings)
    (nil : ∀ fs, P fs [] (Run.stop fs [] none))
    (unlisted : ∀ fs path depth fault rest, P fs (.unlisted path depth fault :: rest)
      (Run.stop fs [] (some (.walkFailed path depth fault))))
    (passed : ∀ fs path rest r, fs.isFile path = false → P fs rest r →
      P fs (.entry path :: rest) r)
    (skipped : ∀ fs path rest r, fs.isFile path = true → cfg.kind? path = none → P fs rest r →
      P fs (.entry path :: rest) { r with log := .skipping path :: r.log })
    (stopped : ∀ fs path kind rest e, fs.isFile path = true → cfg.kind? path = some kind →
      fs.readSource path = .error e → P fs (.entry path :: rest)
        (Run.stop fs [.processing path kind] (some e)))
    (done : ∀ fs path kind rest b s r, cfg.kind? path = some kind → fs.read path = .ok b →
      SourceText.decode? b = some s → P (cfg.filesAfter fs [⟨path, kind⟩]) rest r →
        P fs (.entry path :: rest)
          (r.after (cfg.outcomeOf ⟨path, kind⟩ s) (cfg.turnLog ⟨path, kind⟩ s)))
    (fs : FileSystem) (visits : List Visit) : P fs visits (cfg.handle fs visits) := by
  induction visits generalizing fs with
  | nil => exact nil fs
  | cons visit rest ih =>
    cases visit with
    | unlisted path depth fault => exact unlisted fs path depth fault rest
    | entry path =>
      cases hf : fs.isFile path with
      | false => exact handle_passed rest hf ▸ passed fs path rest _ hf (ih fs)
      | true =>
        cases hk : cfg.kind? path with
        | none => exact handle_skipped rest hf hk ▸ skipped fs path rest _ hf hk (ih fs)
        | some kind =>
          cases h : fs.readSource path with
          | error e => exact handle_stopped rest hf hk h ▸ stopped fs path kind rest e hf hk h
          | ok s =>
            obtain ⟨b, hr, hs⟩ := readSource_eq_ok_iff.1 h
            exact handle_done rest hk hr hs ▸ done fs path kind rest b s _ hk hr hs (ih _)

end Settings

end LiteralPatch
