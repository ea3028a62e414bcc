import LiteralPatch.CommandLine.Execution
import LiteralPatch.Proofs.CommandLine.Given
import LiteralPatch.Proofs.CommandLine.Json
import LiteralPatch.Proofs.Run.Edits

namespace LiteralPatch

def Execution.output (x : Execution) : Text := x.printed.flatMap fun p ↦ p.text.toList

def Outcome.line (dryRun : Bool) (o : Outcome) : Text :=
  (if dryRun then "Would modify " else "Successfully modified ").toList ++ o.path ++ ['\n']

namespace Printed

theorem text_question : question.text.toList = Prompt.question := by
  rw [text, String.toList_ofList]

theorem text_modified (dryRun : Bool) (o : Outcome) :
    (modified dryRun o.path).text.toList = o.line dryRun := by
  rw [text, modifiedLine, Outcome.line, String.toList_append, String.toList_append,
    String.toList_ofList]
  rfl

theorem text_summary (os : List Outcome) :
    (summary os).text.toList = (Summary.render os).toList ++ ['\n'] := by
  rw [text, String.toList_append]
  rfl

end Printed

namespace Arguments

/-- A summary is asked for, and there is one: the run succeeds and has no path but in Unicode. -/
def Summarises (a : Arguments) (fs : FileSystem) (r : Run) : Prop :=
  a.json = true ∧ r.failure = none ∧ ∀ o ∈ r.outcomes, fs.host.isUnicode o.path = true

instance (a : Arguments) (fs : FileSystem) (r : Run) : Decidable (a.Summarises fs r) :=
  inferInstanceAs (Decidable (_ ∧ _ ∧ _))

variable {a : Arguments} {arguments : List Text} {env : Environment} {program raw : Text}
  {input : Bytes} {e : ProgramError}

theorem execute_of_error (h : a.answer input = .error e) (program : Text) (before : ListingOrder)
    (fs : FileSystem) :
    a.execute program input before fs = ⟨fs, [.question], [], some (.program e)⟩ := by
  have hw : a.whitelist = none := by
    cases hw : a.whitelist with
    | some given =>
      rw [answer, hw] at h
      cases h
    | none => rfl
  simp only [execute, configure, h, hw]
  rfl

theorem execute_of_rootFailure? {e : PatchError} (h : a.answer input = .ok raw)
    (hr : a.rootFailure? program = some e) (before : ListingOrder) (fs : FileSystem) :
    a.execute program input before fs =
      ⟨fs, if a.whitelist = none then [.question] else [], [], some (.program (.patch e))⟩ := by
  simp only [execute, configure, h, hr, Option.isNone_iff_eq_none]

theorem execute_of_ok (h : a.answer input = .ok raw) (hr : a.rootFailure? program = none)
    (before : ListingOrder) (fs : FileSystem) :
    let r := (a.settings program raw).run before fs
    let x := a.execute program input before fs
    x.files = r.files ∧
      (∀ e, r.failure = some e → x.failure = some (.program (.patch e))) ∧
      (r.failure = none →
        x.failure = if a.json = true → a.Summarises fs r then none else some .summary) ∧
      x.printed = (if a.whitelist = none then [.question] else []) ++
        (r.announced.map fun o ↦ .modified a.dryRun o.path) ++
        (if a.Summarises fs r then [.summary r.outcomes] else []) := by
  intro r x
  have hx : x = a.execute program input before fs := rfl
  have hrun : (a.settings program raw).run before fs = r := rfl
  have hdry : (a.settings program raw).dryRun = a.dryRun := rfl
  simp only [execute, configure, h, hr, hrun, hdry, Run.result, Option.isNone_iff_eq_none] at hx
  cases hf : r.failure with
  | some e =>
    simp only [hf] at hx
    have hs : ¬a.Summarises fs r := fun ⟨_, hnone, _⟩ ↦ by
      rw [hf] at hnone
      cases hnone
    rw [hx, if_neg hs, List.append_nil]
    exact ⟨rfl, fun _ he ↦ Option.some.inj he ▸ rfl, nofun, rfl⟩
  | none =>
    simp only [hf] at hx
    cases hj : a.json with
    | false =>
      have hs : ¬a.Summarises fs r := fun ⟨hjson, _⟩ ↦ by
        rw [hj] at hjson
        cases hjson
      have himp : false = true → a.Summarises fs r := nofun
      rw [hj] at hx
      rw [hx, if_neg hs, if_pos himp, List.append_nil]
      exact ⟨rfl, nofun, fun _ ↦ rfl, rfl⟩
    | true =>
      rw [hj, Bool.not_true, if_neg Bool.false_ne_true] at hx
      by_cases hu : ∀ o ∈ r.outcomes, fs.host.isUnicode o.path = true
      · have hs : a.Summarises fs r := ⟨hj, hf, hu⟩
        have himp : true = true → a.Summarises fs r := fun _ ↦ hs
        rw [if_pos (List.all_eq_true.2 hu)] at hx
        rw [hx, if_pos hs, if_pos himp]
        exact ⟨rfl, nofun, fun _ ↦ rfl, rfl⟩
      · have hs : ¬a.Summarises fs r := fun hs ↦ hu hs.2.2
        have himp : ¬(true = true → a.Summarises fs r) := fun himp ↦ hs (himp rfl)
        rw [if_neg (mt List.all_eq_true.1 hu)] at hx
        rw [hx, if_neg hs, if_neg himp, List.append_nil]
        exact ⟨rfl, nofun, fun _ ↦ rfl, rfl⟩

theorem whitelist_eq_none_iff (h : read arguments env = .ok a) :
    a.whitelist = none ↔ env.whitelist = none ∧
      ∀ argument ∈ arguments, ¬Names (.inl .whitelist) argument := by
  have hw : a.whitelist.isSome = true ↔
      (∃ argument ∈ arguments, Names (.inl .whitelist) argument) ∨ env.whitelist.isSome = true := by
    simpa [Has] using has_read (o := .inl .whitelist) h
  rw [← Option.not_isSome_iff_eq_none, hw, not_or, Option.not_isSome_iff_eq_none, and_comm]
  simp

def summarised : Arguments := { root := some ['r'], json := true }

def strangeName : FileSystem where
  top := .dir [(['r'], .dir [("\ufffd.cs".toList, .file [0x22, 0x61, 0x22])])]
  cwd := []
  host := { isUnicode := fun path ↦ !path.contains '\ufffd' }

end Arguments

end LiteralPatch
