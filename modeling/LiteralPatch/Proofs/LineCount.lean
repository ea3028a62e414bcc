import LiteralPatch.Proofs.CommandLine.Console
import LiteralPatch.Proofs.Declaration.Line
import LiteralPatch.Proofs.Points
import LiteralPatch.Proofs.Prompt

namespace LiteralPatch

namespace Rule

theorem countP_applyAll {P : Char → Bool} {k : Nat} {rules : List Rule}
    (h : ∀ rule ∈ rules, rule.insert.countP P = k) (s : Text) :
    (applyAll rules s).content.countP P = s.countP P + (applyAll rules s).hits * k := by
  induction rules generalizing s with
  | nil => simp [applyAll, applyEach, totalHits]
  | cons rule rules ih =>
    rw [List.forall_mem_cons] at h
    rw [applyAll_cons]
    simp only [ih h.2, countP_apply, h.1, Nat.add_mul]
    omega

theorem count_newline_applyAll_both (w : Whitelist) (anchor : Anchor) (s : Text) :
    (applyAll (both w anchor) s).content.count '\n' =
      s.count '\n' + (applyAll (both w anchor) s).hits * w.raw.count '\n' := by
  refine countP_applyAll (fun rule hr ↦ ?_) s
  have hinsert (q : Quote) : (w.escaped q).count '\n' = w.raw.count '\n' :=
    q.count_escape (by decide) w.raw
  simp only [both, List.mem_cons, List.not_mem_nil, or_false] at hr
  rcases hr with rfl | rfl
  · exact hinsert .double
  · exact hinsert .single

end Rule

def Bytes.lineEnds (b : Bytes) : Nat := b.count 0x0a

theorem SourceText.lineEnds_encode (s : SourceText) :
    Bytes.lineEnds s.encode = s.text.count '\n' := by
  have hmark : byteOrderMark.count 0x0a = 0 := by decide
  rw [Bytes.lineEnds, encode, List.count_append, Utf8.count_newline_encode]
  split
  · rw [hmark, Nat.zero_add]
  · exact Nat.zero_add _

theorem SourceText.lineEnds_of_decode? {b : Bytes} {s : SourceText} (h : decode? b = some s) :
    Bytes.lineEnds b = s.text.count '\n' := by
  rw [← encode_of_decode? h, lineEnds_encode]

namespace Settings

def AskedRun (fs fs' : FileSystem) : Prop :=
  ∃ (cfg : Settings) (before : ListingOrder) (input : Bytes),
    (Prompt.answer input).1 = .ok cfg.whitelist.raw ∧ fs' = (cfg.run before fs).files

variable {cfg : Settings} {fs fs' : FileSystem}

theorem count_newline_patch (cfg : Settings) (kind : FileKind) (s : Text) :
    (cfg.patch kind s).content.count '\n' =
      s.count '\n' + (cfg.patch kind s).hits * cfg.whitelist.raw.count '\n' := by
  cases kind with
  | targeted => exact Declaration.count_newline_setDefault cfg.extent cfg.whitelist s
  | generic => exact Rule.count_newline_applyAll_both cfg.whitelist cfg.anchor s

theorem lineEnds_rewritten (hw : '\n' ∉ cfg.whitelist.raw) (kind : FileKind) (b : Bytes) :
    Bytes.lineEnds (cfg.rewritten kind b) = Bytes.lineEnds b := by
  cases hs : SourceText.decode? b with
  | none => rw [rewritten_of_none hs]
  | some s =>
    rw [rewritten_of_decode? hs, SourceText.lineEnds_encode, SourceText.lineEnds_of_decode? hs]
    simp only [count_newline_patch, List.count_eq_zero.2 hw, Nat.mul_zero, Nat.add_zero]

theorem lineEnds_run (hw : '\n' ∉ cfg.whitelist.raw) (before : ListingOrder) (fs : FileSystem)
    (loc : Location) : ((cfg.run before fs).files.content? loc).map Bytes.lineEnds =
      (fs.content? loc).map Bytes.lineEnds := by
  obtain ⟨js, -, hfiles, -⟩ := cfg.exists_turns before fs
  rw [hfiles, map_content?_filesAfter (lineEnds_rewritten hw)]

theorem lineEnds_askedRuns (h : Relation.ReflTransGen AskedRun fs fs') (loc : Location) :
    (fs'.content? loc).map Bytes.lineEnds = (fs.content? loc).map Bytes.lineEnds := by
  induction h with
  | refl => rfl
  | tail _ hrun ih =>
    obtain ⟨cfg, before, input, hw, rfl⟩ := hrun
    exact (lineEnds_run (Prompt.newline_not_mem_answer hw) before _ loc).trans ih

end Settings

namespace Arguments

theorem askedRuns_execute {a : Arguments} (h : a.whitelist = none) (program : Text) (input : Bytes)
    (before : ListingOrder) (fs : FileSystem) :
    Relation.ReflTransGen Settings.AskedRun fs (a.execute program input before fs).files := by
  cases hraw : a.answer input with
  | error e => rw [execute_of_error hraw]
  | ok raw =>
    cases hroot : a.rootFailure? program with
    | some e => rw [execute_of_rootFailure? hraw hroot]
    | none =>
      obtain ⟨hfiles, -⟩ := execute_of_ok hraw hroot before fs
      rw [hfiles]
      refine .single ⟨a.settings program raw, before, input, ?_, rfl⟩
      rw [answer, h] at hraw
      exact hraw

/-- With each hit come the line feeds of the whitelist, and no other comes or goes. So where the
whitelist is asked for, files have as many lines after any number of runs as before. -/
theorem lines_of_edits :
    (∀ (cfg : Settings) kind s, (cfg.patch kind s).content.count '\n' =
      s.count '\n' + (cfg.patch kind s).hits * cfg.whitelist.raw.count '\n') ∧
    (∀ b s, SourceText.decode? b = some s → Bytes.lineEnds b = s.text.count '\n') ∧
    (∀ fs fs', Relation.ReflTransGen Settings.AskedRun fs fs' → ∀ loc,
      (fs'.content? loc).map Bytes.lineEnds = (fs.content? loc).map Bytes.lineEnds) ∧
    ∀ a : Arguments, a.whitelist = none → ∀ program input before fs,
      Relation.ReflTransGen Settings.AskedRun fs (a.execute program input before fs).files :=
  ⟨Settings.count_newline_patch, fun _ _ ↦ SourceText.lineEnds_of_decode?,
    fun _ _ ↦ Settings.lineEnds_askedRuns, fun _ ↦ askedRuns_execute⟩

def oneLine : FileSystem where
  top := .dir [(['r'], .dir [("a.cs".toList, .file [0x22, 0x61, 0x22, 0x0a])])]
  cwd := []

def answeredTwice : FileSystem :=
  (summarised.execute [] [0x5c, 0x6e, 0x0d, 0x0a] (fun _ _ _ ↦ true)
    (summarised.execute [] [0x23, 0x0a] (fun _ _ _ ↦ true) oneLine).files).files

theorem lines_of_edits_oneLine :
    answeredTwice.content? [['r'], "a.cs".toList] =
        some [0x22, 0x61, 0x5c, 0x5c, 0x5c, 0x6e, 0x23, 0x22, 0x0a] ∧
      (answeredTwice.content? [['r'], "a.cs".toList]).map Bytes.lineEnds = some 1 ∧
      (Settings.patch { root := ['r'], whitelist := ⟨['\n']⟩ } .generic
        ['"', 'a', '\'', 'b', '\'', '"']).content.count '\n' = 2 := by
  obtain ⟨hcount, -, hruns, hasked⟩ := lines_of_edits
  have hrun := hasked summarised rfl []
  refine ⟨by cbv, ?_, ?_⟩
  · exact (hruns oneLine _ ((hrun _ _ _).trans (hrun _ _ _)) _).trans (by cbv)
  · exact (hcount _ _ _).trans (by decide +kernel)

end Arguments

end LiteralPatch
