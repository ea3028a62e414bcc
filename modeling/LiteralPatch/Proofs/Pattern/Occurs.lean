import LiteralPatch.Proofs.Pattern.Program

namespace LiteralPatch

namespace PatternProgram

def Skipped (steps : Array PatternStep) (position : Nat) (marks : Array Nat) (i : Nat) : Prop :=
  marks[i]? = some position ∨ steps[i]? = none

def unmarked (position : Nat) (marks : Array Nat) : Nat := marks.countP (· ≠ position)

variable {steps : Array PatternStep} {position i : Nat} {before after : Option Char}
  {is work ahead : List Nat} {marks : Array Nat} {step : PatternStep}

theorem unmarked_setIfInBounds (hi : i < marks.size) (h : marks[i]? ≠ some position) :
    unmarked position (marks.setIfInBounds i position) + 1 = unmarked position marks := by
  have hne : marks.toList[i] ≠ position := fun he ↦
    h (by rw [Array.getElem?_eq_getElem hi, ← he, Array.getElem_toList])
  have hpos : 0 < marks.toList.countP (· ≠ position) :=
    List.countP_pos_iff.2 ⟨_, List.getElem_mem (by simpa using hi), by simpa using hne⟩
  rw [unmarked, unmarked, ← Array.countP_toList, ← Array.countP_toList,
    Array.toList_setIfInBounds, List.countP_set (by simpa using hi)]
  simp only [decide_eq_true_eq, hne, not_false_eq_true, if_true, ne_eq, not_true_eq_false, if_false]
  simp only [ne_eq] at hpos
  omega

theorem reach?_of_skipped (hsize : marks.size = steps.size) (h : Skipped steps position marks i)
    (n : Nat) :
    reach? steps position before after (n + 1) (i :: is) ahead marks =
      reach? steps position before after n is ahead marks := by
  rw [reach?]
  split
  · rfl
  · next hm =>
    have hs : steps[i]? = none := h.resolve_left hm
    have hle : marks.size ≤ i := hsize ▸ Array.getElem?_eq_none_iff.1 hs
    simp only [hs, Array.setIfInBounds_eq_of_size_le hle]

theorem reach?_of_done (h : ¬Skipped steps position marks i) (hs : steps[i]? = some .done)
    (n : Nat) : reach? steps position before after (n + 1) (i :: is) ahead marks = none := by
  rw [reach?, if_neg fun hm ↦ h (.inl hm)]
  simp only [hs]

theorem reach?_of_step (h : ¬Skipped steps position marks i) (hs : steps[i]? = some step)
    (hd : step ≠ .done) (n : Nat) :
    reach? steps position before after (n + 1) (i :: is) ahead marks =
      reach? steps position before after n (step.free before after ++ is)
        (step.taken after ++ ahead) (marks.setIfInBounds i position) := by
  rw [reach?, if_neg fun hm ↦ h (.inl hm)]
  simp only [hs]
  cases step with
  | done => exact absurd rfl hd
  | takeChar c next => simp only [PatternStep.free, PatternStep.taken]; split <;> rfl
  | takeOne s next => simp only [PatternStep.free, PatternStep.taken]; split <;> rfl
  | check a next => simp only [PatternStep.free, PatternStep.taken]; split <;> rfl
  | fork next other => rfl

theorem reach?_sound {Q : Nat → Prop}
    (hfree : ∀ i step, Q i → steps[i]? = some step → ∀ j ∈ step.free before after, Q j)
    (n : Nat) (hsize : marks.size = steps.size) (hwork : ∀ i ∈ work, Q i) :
    (reach? steps position before after n work ahead marks = none →
      ∃ i, Q i ∧ steps[i]? = some .done) ∧
    ∀ ahead' marks',
      reach? steps position before after n work ahead marks = some (ahead', marks') →
      ∀ j ∈ ahead', j ∈ ahead ∨ ∃ i step, Q i ∧ steps[i]? = some step ∧ j ∈ step.taken after := by
  induction n generalizing work ahead marks with
  | zero => exact ⟨nofun, fun _ _ h j hj ↦ .inl (by cases h; exact hj)⟩
  | succ n ih =>
    cases work with
    | nil => exact ⟨nofun, fun _ _ h j hj ↦ .inl (by cases h; exact hj)⟩
    | cons i is =>
      rw [List.forall_mem_cons] at hwork
      by_cases hi : Skipped steps position marks i
      · rw [reach?_of_skipped hsize hi]
        exact ih hsize hwork.2
      · obtain ⟨step, hs⟩ := Option.ne_none_iff_exists'.1 fun hs ↦ hi (.inr hs)
        by_cases hd : step = .done
        · subst hd
          rw [reach?_of_done hi hs]
          exact ⟨fun _ ↦ ⟨i, hwork.1, hs⟩, nofun⟩
        · have hsize' : (marks.setIfInBounds i position).size = steps.size := by simpa using hsize
          have hwork' := List.forall_mem_append.2 ⟨hfree i step hwork.1 hs, hwork.2⟩
          rw [reach?_of_step hi hs hd]
          refine ⟨(ih hsize' hwork').1, fun ahead' marks' h j hj ↦ ?_⟩
          rcases (ih hsize' hwork').2 ahead' marks' h j hj with hj | hj
          · rcases List.mem_append.1 hj with hj | hj
            · exact .inr ⟨i, step, hwork.1, hs, hj⟩
            · exact .inl hj
          · exact .inr hj

/-- What was followed at a position is not the end, and what follows it was met or will be. -/
structure Explored (steps : Array PatternStep) (position : Nat) (before after : Option Char)
    (work ahead : List Nat) (marks : Array Nat) : Prop where
  size_eq : marks.size = steps.size
  ne_done {i : Nat} (hi : marks[i]? = some position) : steps[i]? ≠ some .done
  free {i : Nat} {step : PatternStep} (hi : marks[i]? = some position)
    (hs : steps[i]? = some step) : ∀ j ∈ step.free before after,
      j ∈ work ∨ Skipped steps position marks j
  taken {i : Nat} {step : PatternStep} (hi : marks[i]? = some position)
    (hs : steps[i]? = some step) : ∀ j ∈ step.taken after, j ∈ ahead

theorem getElem?_setIfInBounds_eq_some_iff {j : Nat} (hi : i < marks.size) :
    (marks.setIfInBounds i position)[j]? = some position ↔
      j = i ∨ marks[j]? = some position := by
  by_cases hij : i = j
  · subst hij
    simp [Array.getElem?_setIfInBounds_self_of_lt hi]
  · simp [Array.getElem?_setIfInBounds_ne hij, Ne.symm hij]

theorem Explored.skip (h : Explored steps position before after (i :: is) ahead marks)
    (hi : Skipped steps position marks i) :
    Explored steps position before after is ahead marks where
  size_eq := h.size_eq
  ne_done := h.ne_done
  free hj hs j hm := by
    rcases h.free hj hs j hm with hm | hm
    · rcases List.mem_cons.1 hm with rfl | hm
      · exact .inr hi
      · exact .inl hm
    · exact .inr hm
  taken := h.taken

theorem Explored.follow (h : Explored steps position before after (i :: is) ahead marks)
    (hi : i < marks.size) (hs : steps[i]? = some step) (hd : step ≠ .done) :
    Explored steps position before after (step.free before after ++ is)
      (step.taken after ++ ahead) (marks.setIfInBounds i position) where
  size_eq := by simpa using h.size_eq
  ne_done hj := by
    rcases (getElem?_setIfInBounds_eq_some_iff hi).1 hj with rfl | hj
    · exact fun he ↦ hd (Option.some.inj (hs.symm.trans he))
    · exact h.ne_done hj
  free {j _} hj hs' l hl := by
    rcases (getElem?_setIfInBounds_eq_some_iff hi).1 hj with rfl | hj
    · obtain rfl := Option.some.inj (hs.symm.trans hs')
      exact .inl (List.mem_append_left _ hl)
    · rcases h.free hj hs' l hl with hm | hm | hm
      · rcases List.mem_cons.1 hm with rfl | hm
        · exact .inr (.inl ((getElem?_setIfInBounds_eq_some_iff hi).2 (.inl rfl)))
        · exact .inl (List.mem_append_right _ hm)
      · exact .inr (.inl ((getElem?_setIfInBounds_eq_some_iff hi).2 (.inr hm)))
      · exact .inr (.inr hm)
  taken {j _} hj hs' l hl := by
    rcases (getElem?_setIfInBounds_eq_some_iff hi).1 hj with rfl | hj
    · obtain rfl := Option.some.inj (hs.symm.trans hs')
      exact List.mem_append_left _ hl
    · exact List.mem_append_right _ (h.taken hj hs' l hl)

theorem length_free_le (step : PatternStep) (before after : Option Char) :
    (step.free before after).length ≤ 2 := by
  cases step <;> simp only [PatternStep.free] <;> try split
  all_goals simp

/-- All steps to follow have been followed in the end, if there are moves enough: each takes one off
the list, and puts two on it only for one that is marked. -/
theorem reach?_explored {ahead' : List Nat} {marks' : Array Nat} (n : Nat)
    (h : Explored steps position before after work ahead marks)
    (hn : work.length + 2 * unmarked position marks ≤ n)
    (hr : reach? steps position before after n work ahead marks = some (ahead', marks')) :
    Explored steps position before after [] ahead' marks' ∧
      (∀ i, i ∈ work ∨ Skipped steps position marks i → Skipped steps position marks' i) ∧
      ∀ i : Nat, marks'[i]? = some position ∨ marks'[i]? = marks[i]? := by
  induction n generalizing work ahead marks with
  | zero =>
    obtain rfl : work = [] := List.length_eq_zero_iff.1 (by omega)
    cases hr
    exact ⟨h, fun i hi ↦ hi.resolve_left (by simp), fun i ↦ .inr rfl⟩
  | succ n ih =>
    cases work with
    | nil =>
      cases hr
      exact ⟨h, fun i hi ↦ hi.resolve_left (by simp), fun i ↦ .inr rfl⟩
    | cons i is =>
      by_cases hi : Skipped steps position marks i
      · rw [reach?_of_skipped h.size_eq hi] at hr
        obtain ⟨hex, hskip, hmarks⟩ := ih (h.skip hi) (by simp at hn; omega) hr
        refine ⟨hex, fun j hj ↦ hskip j ?_, hmarks⟩
        rcases hj with hj | hj
        · rcases List.mem_cons.1 hj with rfl | hj
          · exact .inr hi
          · exact .inl hj
        · exact .inr hj
      · obtain ⟨step, hs⟩ := Option.ne_none_iff_exists'.1 fun hs ↦ hi (.inr hs)
        have hd : step ≠ .done := by
          rintro rfl
          rw [reach?_of_done hi hs] at hr
          cases hr
        have hlt : i < marks.size := by
          rw [h.size_eq]
          exact (Array.getElem?_eq_some_iff.1 hs).1
        have hmark := unmarked_setIfInBounds hlt fun hm ↦ hi (.inl hm)
        rw [reach?_of_step hi hs hd] at hr
        have hfuel : (step.free before after ++ is).length +
            2 * unmarked position (marks.setIfInBounds i position) ≤ n := by
          have := length_free_le step before after
          rw [List.length_append]
          rw [List.length_cons] at hn
          omega
        obtain ⟨hex, hskip, hmarks⟩ := ih (h.follow hlt hs hd) hfuel hr
        refine ⟨hex, fun j hj ↦ hskip j ?_, fun j ↦ ?_⟩
        · rcases hj with hj | hj | hj
          · rcases List.mem_cons.1 hj with rfl | hj
            · exact .inr (.inl ((getElem?_setIfInBounds_eq_some_iff hlt).2 (.inl rfl)))
            · exact .inl (List.mem_append_right _ hj)
          · exact .inr (.inl ((getElem?_setIfInBounds_eq_some_iff hlt).2 (.inr hj)))
          · exact .inr (.inr hj)
        · rcases hmarks j with hj | hj
          · exact .inl hj
          · by_cases hij : i = j
            · subst hij
              rw [Array.getElem?_setIfInBounds_self_of_lt hlt] at hj
              exact .inl hj
            · rw [Array.getElem?_setIfInBounds_ne hij] at hj
              exact .inr hj

def Live (steps : Array PatternStep) (i : Nat) (k : Cursor) : Prop := ∃ n, Ends steps n i k

variable {k : Cursor} {c : Char} {s : Text}

theorem Explored.live (h : Explored steps position k.before k.rest.head? [] ahead marks)
    (hi : Skipped steps position marks i) (hl : Live steps i k) :
    ∃ c s, k.rest = c :: s ∧ ∃ j ∈ ahead, Live steps j ⟨some c, s⟩ := by
  obtain ⟨n, he⟩ := hl
  induction n generalizing i with
  | zero =>
    cases he with
    | done hs =>
      rcases hi with hi | hi
      · exact absurd hs (h.ne_done hi)
      · rw [hi] at hs
        cases hs
  | succ n ih =>
    cases he with
    | move hs hm he =>
      rcases hi with hi | hi
      · cases hm with
        | free hj =>
          exact ih ((h.free hi hs _ hj).resolve_left List.not_mem_nil) he
        | @taken c s hk hj =>
          rw [← List.head?_cons (a := c) (l := s), ← hk] at hj
          exact ⟨c, s, hk, _, h.taken hi hs _ hj, n, he⟩
      · rw [hi] at hs
        cases hs

theorem Live.of_free {j : Nat} {step : PatternStep} (hs : steps[i]? = some step)
    (hj : j ∈ step.free k.before k.rest.head?) (h : Live steps j k) : Live steps i k := by
  obtain ⟨n, he⟩ := h
  exact ⟨n + 1, .move hs (.free hj) he⟩

theorem Live.of_taken {j : Nat} {step : PatternStep} (hs : steps[i]? = some step)
    (hk : k.rest = c :: s) (hj : j ∈ step.taken (some c)) (h : Live steps j ⟨some c, s⟩) :
    Live steps i k := by
  obtain ⟨n, he⟩ := h
  exact ⟨n + 1, .move hs (.taken hk hj) he⟩

def Marked (steps : Array PatternStep) (position : Nat) (marks : Array Nat) : Prop :=
  marks.size = steps.size ∧ ∀ i m : Nat, marks[i]? = some m → m < position

theorem Marked.explored (h : Marked steps position marks) (before after : Option Char)
    (work : List Nat) : Explored steps position before after work [] marks where
  size_eq := h.1
  ne_done hi := absurd (h.2 _ _ hi) (Nat.lt_irrefl _)
  free hi _ := absurd (h.2 _ _ hi) (Nat.lt_irrefl _)
  taken hi _ := absurd (h.2 _ _ hi) (Nat.lt_irrefl _)

theorem exists_live_of_reach?_eq_none {n : Nat} (hm : Marked steps position marks)
    (hr : reach? steps position k.before k.rest.head? n work ahead marks = none) :
    ∃ i ∈ work, Live steps i k := by
  have hfree (i : Nat) (step : PatternStep) (hi : Live steps i k → ∃ w ∈ work, Live steps w k)
      (hs : steps[i]? = some step) (j : Nat) (hj : j ∈ step.free k.before k.rest.head?)
      (hl : Live steps j k) : ∃ w ∈ work, Live steps w k := hi (.of_free hs hj hl)
  obtain ⟨i, hi, hd⟩ := (reach?_sound hfree n hm.1 fun i hi hl ↦ ⟨i, hi, hl⟩).1 hr
  exact hi ⟨0, .done hd⟩

theorem exists_live_iff_of_reach? {n : Nat} {marks' : Array Nat}
    (hm : Marked steps position marks) (hn : work.length + 2 * steps.size ≤ n)
    (hr : reach? steps position k.before k.rest.head? n work [] marks = some (ahead, marks')) :
    Marked steps (position + 1) marks' ∧
      ((∃ i ∈ work, Live steps i k) ↔
        ∃ c s, k.rest = c :: s ∧ ∃ j ∈ ahead, Live steps j ⟨some c, s⟩) := by
  have hfree (i : Nat) (step : PatternStep) (hi : Live steps i k → ∃ w ∈ work, Live steps w k)
      (hs : steps[i]? = some step) (j : Nat) (hj : j ∈ step.free k.before k.rest.head?)
      (hl : Live steps j k) : ∃ w ∈ work, Live steps w k := hi (.of_free hs hj hl)
  have hcount : unmarked position marks ≤ steps.size := hm.1 ▸ Array.countP_le_size
  obtain ⟨hex, hskip, hmarks⟩ := reach?_explored n (hm.explored _ _ _) (by omega) hr
  refine ⟨⟨hex.size_eq, fun i m hi ↦ ?_⟩, ?_, ?_⟩
  · rcases hmarks i with h | h
    · exact Option.some.inj (h.symm.trans hi) ▸ Nat.lt_succ_self _
    · exact Nat.lt_succ_of_lt (hm.2 i m (h ▸ hi))
  · rintro ⟨i, hi, hl⟩
    exact hex.live (hskip i (.inl hi)) hl
  · rintro ⟨c, s, hk, j, hj, hl⟩
    have hsound := (reach?_sound hfree n hm.1 fun i hi hl ↦ ⟨i, hi, hl⟩).2 _ _ hr j hj
    obtain ⟨i, step, hi, hs, hj⟩ := hsound.resolve_left List.not_mem_nil
    rw [hk, List.head?_cons] at hj
    exact hi (.of_taken hs hk hj hl)

def Later (p : PatternProgram) (k : Cursor) : Prop :=
  ∃ s r, k.rest = s ++ r ∧ Live p.steps p.start ⟨s.getLast?.or k.before, r⟩

theorem later_nil {p : PatternProgram} :
    Later p ⟨before, []⟩ ↔ Live p.steps p.start ⟨before, []⟩ := by
  constructor
  · rintro ⟨s, r, hs, hl⟩
    obtain ⟨rfl, rfl⟩ := List.append_eq_nil_iff.1 hs.symm
    exact hl
  · exact fun hl ↦ ⟨[], [], rfl, hl⟩

theorem later_cons {p : PatternProgram} :
    Later p ⟨before, c :: s⟩ ↔ Live p.steps p.start ⟨before, c :: s⟩ ∨ Later p ⟨some c, s⟩ := by
  have hlast (s : Text) (b : Option Char) : (c :: s).getLast?.or b = s.getLast?.or (some c) := by
    cases s <;> simp [List.getLast?_cons]
  constructor
  · rintro ⟨x, r, hx, hl⟩
    rcases List.cons_eq_append_iff.1 hx with ⟨rfl, rfl⟩ | ⟨y, rfl, hy⟩
    · exact .inl hl
    · exact .inr ⟨y, r, hy, hlast y before ▸ hl⟩
  · rintro (hl | ⟨y, r, hy, hl⟩)
    · exact ⟨[], c :: s, rfl, hl⟩
    · exact ⟨c :: y, r, congrArg (c :: ·) hy, (hlast y before).symm ▸ hl⟩

theorem fuel_le (p : PatternProgram) (present : List Nat) :
    (present ++ [p.start]).length + 2 * p.steps.size ≤
      3 * p.steps.size + present.length + 2 := by
  rw [List.length_append, List.length_singleton]
  omega

/-- Running on finds an end from one of the steps to follow, or from a fresh start. -/
theorem runFrom_iff (p : PatternProgram) (text : Text) {position : Nat} {before : Option Char}
    {present : List Nat} {marks : Array Nat} (hm : Marked p.steps position marks) :
    p.runFrom text position before present marks = true ↔
      (∃ i ∈ present, Live p.steps i ⟨before, text⟩) ∨ Later p ⟨before, text⟩ := by
  induction text generalizing position before present marks with
  | nil =>
    have hwork : (∃ i ∈ present, Live p.steps i ⟨before, []⟩) ∨ Later p ⟨before, []⟩ ↔
        ∃ i ∈ present ++ [p.start], Live p.steps i ⟨before, []⟩ := by
      rw [later_nil]
      simp [or_and_right, exists_or]
    rw [hwork, runFrom]
    simp only
    split
    · next hr => exact iff_of_true rfl (exists_live_of_reach?_eq_none hm hr)
    · next ahead marks' hr =>
      refine iff_of_false Bool.false_ne_true fun h ↦ ?_
      obtain ⟨c, s, hk, -⟩ := (exists_live_iff_of_reach? hm (fuel_le p present) hr).2.1 h
      cases hk
  | cons c text ih =>
    have hwork : (∃ i ∈ present, Live p.steps i ⟨before, c :: text⟩) ∨
          Later p ⟨before, c :: text⟩ ↔
        (∃ i ∈ present ++ [p.start], Live p.steps i ⟨before, c :: text⟩) ∨
          Later p ⟨some c, text⟩ := by
      rw [later_cons]
      simp [or_and_right, exists_or, or_assoc]
    rw [hwork, runFrom]
    simp only
    split
    · next hr => exact iff_of_true rfl (.inl (exists_live_of_reach?_eq_none hm hr))
    · next ahead marks' hr =>
      obtain ⟨hm', hlive⟩ :=
        exists_live_iff_of_reach? (k := ⟨before, c :: text⟩) hm (fuel_le p present) hr
      rw [ih hm', hlive]
      refine or_congr_left ⟨fun h ↦ ⟨c, text, rfl, h⟩, ?_⟩
      rintro ⟨_, _, hk, h⟩
      obtain ⟨rfl, rfl⟩ := List.cons.inj hk
      exact h

theorem occursIn_iff (p : PatternProgram) (s : Text) :
    p.occursIn s = true ↔ ∃ a b, s = a ++ b ∧ Live p.steps p.start ⟨a.getLast?, b⟩ := by
  have hm : Marked p.steps 1 (Array.replicate p.steps.size 0) := by
    refine ⟨Array.size_replicate, fun i m hi ↦ ?_⟩
    rw [Array.getElem?_replicate] at hi
    split at hi
    · cases hi
      exact Nat.one_pos
    · cases hi
  rw [occursIn, runFrom_iff p s hm]
  simp [Later]

end PatternProgram

/-- The program of a pattern occurs in a text if the pattern takes a part of it. -/
theorem Pattern.occursIn_program_iff (p : Pattern) (s : Text) :
    p.program.occursIn s = true ↔ ∃ a b k, s = a ++ b ∧ p.Takes ⟨a.getLast?, b⟩ k := by
  rw [PatternProgram.occursIn_iff]
  simp only [PatternProgram.Live, p.exists_ends_program_iff, exists_and_left]

end LiteralPatch
