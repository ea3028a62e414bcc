import LiteralPatch.Proofs.FirstCharacter
import LiteralPatch.Proofs.Run.Edits

namespace LiteralPatch

namespace FileSystem

def readFailure? (fs : FileSystem) (path : Text) : Option PatchError :=
  match fs.readSource path with
  | .error e => some e
  | .ok _ => none

variable {fs : FileSystem} {path : Text} {loc : Location} {b : Bytes} {e : PatchError}

theorem readFailure?_eq_none_iff :
    fs.readFailure? path = none ↔ ∃ s, fs.readSource path = .ok s := by
  rw [readFailure?]
  cases fs.readSource path <;> simp

theorem readFailure?_eq_some_iff :
    fs.readFailure? path = some e ↔ fs.readSource path = .error e := by
  rw [readFailure?]
  cases fs.readSource path <;> simp

theorem readFailure?_of_content? (hl : fs.locate path = .ok loc) (hb : fs.content? loc = some b) :
    fs.readFailure? path = ((fs.host.closed? loc).map (.readFailed path)).or
      (if (SourceText.decode? b).isSome then none else some (.notUtf8 path)) := by
  cases hc : fs.host.closed? loc with
  | some fault =>
    rw [readFailure?_eq_some_iff.2 (Settings.readSource_eq_error_iff.2
      (.inl ⟨fault, read_of_closed hl hb hc, rfl⟩))]
    rfl
  | none =>
    have hr : fs.read path = .ok b := read_eq_ok_iff.2 ⟨loc, hl, hb, hc⟩
    cases hs : SourceText.decode? b with
    | none =>
      rw [readFailure?_eq_some_iff.2 (Settings.readSource_eq_error_iff.2
        (.inr ⟨b, hr, hs, rfl⟩))]
      rfl
    | some s =>
      rw [readFailure?_eq_none_iff.2 ⟨s, Settings.readSource_eq_ok_iff.2 ⟨b, hr, hs⟩⟩]
      rfl

end FileSystem

namespace Settings

variable {cfg : Settings} {fs fs' : FileSystem} {before : ListingOrder} {visits : List Visit}
  {js done left : List Job} {os : List Outcome} {r : Run} {j : Job} {kind : FileKind} {b : Bytes}
  {s : SourceText}

theorem decode?_rewritten (hs : SourceText.decode? b = some s) :
    SourceText.decode? (cfg.rewritten kind b) =
      some { s with text := (cfg.patch kind s.text).content } := by
  rw [rewritten_of_decode? hs]
  -- The mark and the first character of the text are as they were, so they are read back apart.
  refine SourceText.decode?_encode fun ⟨hm, ht⟩ ↦ ?_
  exact SourceText.not_ambiguous_of_decode? hs ⟨hm, (cfg.head?_patch kind s.text) ▸ ht⟩

theorem isSome_decode?_rewritten (cfg : Settings) (kind : FileKind) (b : Bytes) :
    (SourceText.decode? (cfg.rewritten kind b)).isSome = (SourceText.decode? b).isSome := by
  cases hs : SourceText.decode? b with
  | none => rw [rewritten_of_none hs, hs]
  | some s =>
    rw [decode?_rewritten hs]
    rfl

theorem readFailure?_filesAfter (cfg : Settings) (fs : FileSystem) (js : List Job) (path : Text) :
    (cfg.filesAfter fs js).readFailure? path = fs.readFailure? path := by
  have hsk := cfg.skeleton_filesAfter fs js
  cases hf : fs.isFile path with
  | true =>
    obtain ⟨loc, b, hl, hb⟩ := FileSystem.isFile_iff.1 hf
    have hmap := map_content?_filesAfter (f := fun b ↦ (SourceText.decode? b).isSome)
      cfg.isSome_decode?_rewritten fs js loc
    rw [hb, Option.map_some, Option.map_eq_some_iff] at hmap
    obtain ⟨b', hb', hsome⟩ := hmap
    have hl' := (locate_filesAfter cfg fs js path).trans hl
    rw [FileSystem.readFailure?_of_content? hl hb, FileSystem.readFailure?_of_content? hl' hb',
      FileSystem.host_congr hsk, hsome]
  | false =>
    have hf' := (FileSystem.isFile_congr hsk path).trans hf
    rw [FileSystem.readFailure?, FileSystem.readFailure?, FileSystem.readSource,
      FileSystem.readSource, ← FileSystem.read_skeleton hf, ← FileSystem.read_skeleton hf', hsk]

theorem Turns.readFailure?_eq_none (h : cfg.Turns fs js os) (hj : j ∈ js) :
    fs.readFailure? j.path = none := by
  induction h with
  | nil fs => cases hj
  | @cons fs j' js s os hs h ih =>
    rcases List.mem_cons.1 hj with rfl | hj
    · exact FileSystem.readFailure?_eq_none_iff.2 ⟨s, hs⟩
    · exact (cfg.readFailure?_filesAfter fs [j'] j.path) ▸ ih hj

theorem Course.readFailure?_head (h : cfg.Course fs visits r done (j :: left)) :
    fs.readFailure? j.path = r.failure ∧ r.failure ≠ none := by
  cases hf : r.failure with
  | none => cases (h.ended hf).1
  | some e =>
    rcases h.failed e hf with ⟨j', hj', hread⟩ | ⟨hleft, -⟩
    · obtain rfl := Option.some.inj hj'
      rw [← cfg.readFailure?_filesAfter fs done, ← h.files_eq]
      exact ⟨FileSystem.readFailure?_eq_some_iff.2 hread, by simp⟩
    · cases hleft

theorem Course.done_eq (h : cfg.Course fs visits r done left) :
    done = (cfg.jobsAmong fs visits).takeWhile fun j ↦ (fs.readFailure? j.path).isNone := by
  rw [h.jobs_eq, List.takeWhile_append_of_pos fun j hj ↦ by
    rw [h.turns.readFailure?_eq_none hj, Option.isNone_none]]
  cases left with
  | nil => simp
  | cons j left =>
    obtain ⟨hj, hne⟩ := h.readFailure?_head
    rw [List.takeWhile_cons_of_neg (by simpa [hj] using hne), List.append_nil]

/-- A run fails at the first job that has no text to edit, or else at what its walk fails at. -/
theorem Course.failure_eq (h : cfg.Course fs visits r done left) :
    r.failure = ((cfg.jobsAmong fs visits).findSome? fun j ↦ fs.readFailure? j.path).or
      (walkFailure? visits) := by
  have hdone : done.findSome? (fun j ↦ fs.readFailure? j.path) = none :=
    List.findSome?_eq_none_iff.2 fun j hj ↦ h.turns.readFailure?_eq_none hj
  rw [h.jobs_eq, List.findSome?_append, hdone, Option.none_or]
  cases left with
  | cons j left =>
    obtain ⟨hj, hne⟩ := h.readFailure?_head
    obtain ⟨e, he⟩ := Option.ne_none_iff_exists'.1 hne
    rw [List.findSome?_cons, hj, he]
    rfl
  | nil =>
    cases hf : r.failure with
    | none => exact (h.ended hf).2.symm
    | some e =>
      rcases h.failed e hf with ⟨j, hj, -⟩ | ⟨-, hw⟩
      · cases hj
      · exact hw.symm

end Settings

end LiteralPatch
