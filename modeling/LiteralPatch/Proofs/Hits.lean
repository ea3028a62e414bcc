import LiteralPatch.Proofs.Literal.Survival
import LiteralPatch.Proofs.Patch
import LiteralPatch.Proofs.Points
import LiteralPatch.Proofs.Run.Edits

namespace LiteralPatch

namespace Literal

variable {q : Quote} {a b s : Text}

def HasLetter (q : Quote) (a : Text) : Prop :=
  ∃ x c y, a = q.mark :: x ++ c :: y ∧ Letterless q x ∧ c.isAlpha = true

theorem exists_body_of_mem_literals (h : a ∈ literals q s) :
    ∃ b, Body q b ∧ a = q.mark :: b ++ [q.mark] := by
  obtain ⟨g, hg, ha⟩ := List.mem_filterMap.1 h
  cases g with
  | plain c => cases ha
  | span a' =>
    obtain rfl := Option.some.inj ha
    obtain ⟨t, r, hr⟩ := Matcher.exists_run_of_span_mem hg
    obtain ⟨b, hb, hab, -⟩ := read?_eq_some_iff.1 hr
    exact ⟨b, hb, hab⟩

theorem letterAt_eq_none_iff (hb : Body q b) :
    letterAt (q.mark :: b ++ [q.mark]) = none ↔ ¬HasLetter q (q.mark :: b ++ [q.mark]) := by
  rw [letterAt, Option.map_eq_none_iff]
  constructor
  · rintro hn ⟨x, c, y, he, hx, hc⟩
    rw [he, hx.split?_letter hc] at hn
    cases hn
  · intro hn
    rcases hb.letterless_or_exists with h | ⟨x, c, y, rfl, hx, hc, -⟩
    · exact h.split?_eq_none
    · exact absurd ⟨x, c, y ++ [q.mark], by simp, hx, hc⟩ hn

theorem letters_eq_nil_iff : letters q s = [] ↔ ¬∃ a ∈ literals q s, HasLetter q a := by
  rw [letters, Matcher.points_eq_nil_iff, ← literals, not_exists]
  refine forall_congr' fun a ↦ ?_
  rw [not_and]
  refine imp_congr_right fun ha ↦ ?_
  obtain ⟨b, hb, rfl⟩ := exists_body_of_mem_literals ha
  exact letterAt_eq_none_iff hb

end Literal

namespace LetterRange

variable {q : Quote}

theorem hits_apply_range_line (q : Quote) (insert : Text) {l : Text} (hl : '\n' ∉ l) :
    ((Rule.mk q .range insert).apply l).hits = 0 ↔ ¬HasQuotedRange q.mark l := by
  rw [apply_range]
  by_cases h : HasQuotedRange q.mark l
  · obtain ⟨k, -, hc⟩ := replace_line hl h insert
    simp [hc, h]
  · simp [replace_line_of_not hl h, h]

theorem hits_apply_range_eq_zero_iff (q : Quote) (insert s : Text) :
    ((Rule.mk q .range insert).apply s).hits = 0 ↔
      ¬∃ l ∈ s.splitOn '\n', HasQuotedRange q.mark l := by
  rw [apply_range, (lineLocal_matcher q.mark_ne_newline).replace_eq_joinLines, Edit.joinLines,
    List.sum_eq_zero_iff, List.forall_mem_map, List.forall_mem_map, not_exists]
  refine forall_congr' fun l ↦ ?_
  rw [not_and]
  refine imp_congr_right fun hl ↦ ?_
  exact hits_apply_range_line q insert (Text.newline_not_mem_of_mem_splitOn hl)

end LetterRange

/-- The anchor stands in a literal, or between two quotes of a line. -/
def Anchor.Found (q : Quote) (s : Text) : Anchor → Prop
  | letter => ∃ a ∈ Literal.literals q s, Literal.HasLetter q a
  | range => ∃ l ∈ s.splitOn '\n', LetterRange.HasQuotedRange q.mark l

namespace Rule

variable {w : Whitelist} {anchor : Anchor} {s : Text}

theorem hits_apply_eq_zero_iff (rule : Rule) (s : Text) :
    (rule.apply s).hits = 0 ↔ ¬rule.anchor.Found rule.quote s := by
  obtain ⟨q, anchor, x⟩ := rule
  cases anchor with
  | letter =>
    rw [hits_apply, List.length_eq_zero_iff]
    exact Literal.letters_eq_nil_iff
  | range => exact LetterRange.hits_apply_range_eq_zero_iff q x s

theorem content_apply_of_hits_eq_zero {rule : Rule} (h : (rule.apply s).hits = 0) :
    (rule.apply s).content = s := by
  obtain ⟨_, m, cut, change, -, happly, -⟩ := rule.exists_insertsAt
  rw [happly] at h ⊢
  exact Matcher.content_replace_of_hits_eq_zero h

theorem content_applyAll_of_hits_eq_zero (rules : List Rule) (h : (applyAll rules s).hits = 0) :
    (applyAll rules s).content = s := by
  induction rules generalizing s with
  | nil => rfl
  | cons rule rules ih =>
    rw [applyAll_cons] at h ⊢
    obtain ⟨hrule, hrules⟩ := Nat.add_eq_zero_iff.1 h
    exact (ih hrules).trans (content_apply_of_hits_eq_zero hrule)

theorem hits_applyAll_both_eq_zero_iff :
    (applyAll (both w anchor) s).hits = 0 ↔ ∀ q, ¬anchor.Found q s := by
  have hfirst := (ofWhitelist w anchor .double).hits_apply_eq_zero_iff s
  have hsecond := (ofWhitelist w anchor .single).hits_apply_eq_zero_iff s
  have hsum : (applyAll (both w anchor) s).hits = ((ofWhitelist w anchor .double).apply s).hits +
      ((ofWhitelist w anchor .single).apply
        ((ofWhitelist w anchor .double).apply s).content).hits := rfl
  rw [hsum, Nat.add_eq_zero_iff]
  constructor
  · rintro ⟨hd, hs⟩ q
    rw [content_apply_of_hits_eq_zero hd] at hs
    cases q with
    | single => exact hsecond.1 hs
    | double => exact hfirst.1 hd
  · intro h
    have hd := hfirst.2 (h .double)
    rw [content_apply_of_hits_eq_zero hd]
    exact ⟨hd, hsecond.2 (h .single)⟩

theorem content_applyAll_both_ne_iff (hw : w.raw ≠ []) :
    (applyAll (both w anchor) s).content ≠ s ↔ 0 < (applyAll (both w anchor) s).hits := by
  constructor
  · intro hne
    exact Nat.pos_of_ne_zero fun h ↦ hne (content_applyAll_of_hits_eq_zero _ h)
  · intro hpos he
    have hl := length_applyAll_both w anchor s
    have hx (q : Quote) : 0 < (w.escaped q).length :=
      List.length_pos_iff.2 fun h ↦ hw (q.escape_eq_nil_iff.1 h)
    rw [he] at hl
    -- Each hit of either rule makes the text longer.
    have hzero := Nat.add_eq_zero_iff.1 (Nat.add_eq_left.1 (Nat.add_assoc .. ▸ hl.symm))
    have hd := (Nat.mul_eq_zero.1 hzero.1).resolve_right (hx _).ne'
    have hs := (Nat.mul_eq_zero.1 hzero.2).resolve_right (hx _).ne'
    exact hpos.ne' (congrArg₂ (· + ·) hd hs)

theorem content_applyAll_both_of_raw_eq_nil (hw : w.raw = []) (anchor : Anchor) (s : Text) :
    (applyAll (both w anchor) s).content = s := by
  have hx (q : Quote) : w.escaped q = [] := q.escape_eq_nil_iff.2 hw
  have hl := length_applyAll_both w anchor s
  simp only [hx, List.length_nil, Nat.mul_zero, Nat.add_zero] at hl
  exact ((sublist_applyAll _ s).eq_of_length hl.symm).symm

end Rule

namespace Settings

variable {cfg : Settings} {fs : FileSystem} {kind : FileKind} {s : Text} {source : SourceText}
  {j : Job} {js : List Job} {o : Outcome} {os : List Outcome} {loc : Location}

def Idle (cfg : Settings) (kind : FileKind) : Prop := kind = .generic ∧ cfg.whitelist.raw = []

theorem content_patch_of_hits_eq_zero (h : (cfg.patch kind s).hits = 0) :
    (cfg.patch kind s).content = s := by
  cases kind with
  | targeted => exact Matcher.content_replace_of_hits_eq_zero h
  | generic => exact Rule.content_applyAll_of_hits_eq_zero (Rule.both cfg.whitelist cfg.anchor) h

theorem Idle.content_patch (h : cfg.Idle kind) (s : Text) : (cfg.patch kind s).content = s := by
  obtain ⟨rfl, hw⟩ := h
  exact Rule.content_applyAll_both_of_raw_eq_nil hw cfg.anchor s

theorem outcomeOf_unchanged (h : (cfg.outcomeOf j source).hits = 0 ∨ cfg.Idle j.kind) :
    (cfg.patch j.kind source.text).content = source.text ∧
      (cfg.outcomeOf j source).changed = false ∧ (cfg.outcomeOf j source).written = false := by
  have hsame : (cfg.patch j.kind source.text).content = source.text :=
    h.elim content_patch_of_hits_eq_zero fun hi ↦ hi.content_patch _
  simp [outcomeOf, hsame]

theorem patchFile_unchanged (hs : fs.readSource j.path = .ok source)
    (h : (cfg.patch j.kind source.text).hits = 0 ∨ cfg.Idle j.kind) :
    cfg.patchFile fs j.path j.kind =
      ⟨fs, cfg.turnLog j source, .ok (cfg.outcomeOf j source)⟩ := by
  obtain ⟨hsame, -, -⟩ := outcomeOf_unchanged h
  rw [patchFile, hs]
  simp [hsame, outcomeOf, turnLog]

theorem Turns.exists_outcomeOf (h : cfg.Turns fs js os) (ho : o ∈ os) :
    ∃ j source, o = cfg.outcomeOf j source := by
  induction h with
  | nil fs => cases ho
  | cons hs h ih =>
    rcases List.mem_cons.1 ho with rfl | ho
    · exact ⟨_, _, rfl⟩
    · exact ih ho

theorem Turns.content?_filesAfter (h : cfg.Turns fs js os)
    (hos : ∀ o ∈ os, fs.locate o.path = .ok loc → o.changed = false) :
    (cfg.filesAfter fs js).content? loc = fs.content? loc := by
  induction h with
  | nil fs => rw [filesAfter_nil]
  | @cons fs j js source os hs h ih =>
    rw [List.forall_mem_cons] at hos
    have hidle : cfg.IdleAt fs [j] loc := by
      intro i hi hl b hb
      obtain rfl := List.mem_singleton.1 hi
      obtain ⟨b', hr, hd⟩ := readSource_eq_ok_iff.1 hs
      obtain ⟨loc', hl', hb', -⟩ := FileSystem.read_eq_ok_iff.1 hr
      obtain rfl : loc' = loc := Except.ok.inj (hl'.symm.trans hl)
      obtain rfl : b' = b := Option.some.inj (hb'.symm.trans hb)
      exact rewritten_eq_self hd (by simpa [outcomeOf] using hos.1 hl)
    rw [filesAfter_cons, ih, hidle.content?_filesAfter]
    simpa only [locate_filesAfter] using hos.2

/-- A run neither announces nor writes the files on which it has no hits. -/
structure ActsOnHits (cfg : Settings) (before : ListingOrder) (fs : FileSystem) : Prop where
  outcome : ∀ o ∈ (cfg.run before fs).outcomes, o.hits = 0 ∨ cfg.Idle o.kind →
    o.changed = false ∧ o.written = false ∧ o ∉ (cfg.run before fs).announced
  content?_eq : ∀ loc, (∀ o ∈ (cfg.run before fs).outcomes,
    fs.locate o.path = .ok loc → o.hits = 0 ∨ cfg.Idle o.kind) →
      (cfg.run before fs).files.content? loc = fs.content? loc

theorem actsOnHits (cfg : Settings) (before : ListingOrder) (fs : FileSystem) :
    cfg.ActsOnHits before fs := by
  obtain ⟨js, hturns, hfiles, hannounced⟩ := cfg.exists_turns before fs
  have hunchanged : ∀ o ∈ (cfg.run before fs).outcomes, o.hits = 0 ∨ cfg.Idle o.kind →
      o.changed = false ∧ o.written = false := by
    intro o ho h
    obtain ⟨j, source, rfl⟩ := hturns.exists_outcomeOf ho
    exact (outcomeOf_unchanged h).2
  constructor
  case outcome =>
    intro o ho h
    obtain ⟨hc, hw⟩ := hunchanged o ho h
    refine ⟨hc, hw, fun ha ↦ ?_⟩
    rw [hannounced, List.mem_filter, hc] at ha
    exact Bool.false_ne_true ha.2
  case content?_eq =>
    intro loc h
    rw [hfiles]
    exact hturns.content?_filesAfter fun o ho hl ↦ (hunchanged o ho (h o ho hl)).1

/-- Where the generic edit has hits, and what they tell. Without one no edit changes a text; with
one the generic edit always does, unless there is nothing to insert. So a file without hits is
neither written nor announced, nor is a generic one for an empty whitelist. -/
theorem hits_and_changes (cfg : Settings) :
    (∀ s, (cfg.patch .generic s).hits = 0 ↔ ∀ q, ¬cfg.anchor.Found q s) ∧
    (∀ kind s, (cfg.patch kind s).hits = 0 → (cfg.patch kind s).content = s) ∧
    (cfg.whitelist.raw ≠ [] → ∀ s,
      (cfg.patch .generic s).content ≠ s ↔ 0 < (cfg.patch .generic s).hits) ∧
    (cfg.whitelist.raw = [] → (∀ s, (cfg.patch .generic s).content = s) ∧
      ∃ s, 0 < (cfg.patch .generic s).hits) ∧
    (∀ (fs : FileSystem) (j : Job) source, fs.readSource j.path = .ok source →
      (cfg.patch j.kind source.text).hits = 0 ∨ cfg.Idle j.kind →
        ∃ log o, cfg.patchFile fs j.path j.kind = ⟨fs, log, .ok o⟩ ∧
          o.hits = (cfg.patch j.kind source.text).hits ∧ o.changed = false ∧ o.written = false) ∧
    ∀ before fs, cfg.ActsOnHits before fs := by
  refine ⟨fun s ↦ Rule.hits_applyAll_both_eq_zero_iff, fun _ _ ↦ content_patch_of_hits_eq_zero,
    fun hw s ↦ Rule.content_applyAll_both_ne_iff hw, fun hw ↦ ⟨?_, ?_⟩, ?_, cfg.actsOnHits⟩
  · exact Idle.content_patch ⟨rfl, hw⟩
  · exact ⟨_, Nat.add_pos_left
      (Rule.hits_apply_pos cfg.whitelist cfg.anchor (by decide : 'x' ≠ '\n')) _⟩
  · intro fs j source hs h
    exact ⟨_, _, patchFile_unchanged hs h, rfl, (outcomeOf_unchanged h).2⟩

def noSigns : Settings := { signs with whitelist := ⟨[]⟩ }

theorem hits_and_changes_one_letter :
    (signs.patch .generic ['"', 'a', '"']).content ≠ ['"', 'a', '"'] ∧
      noSigns.Idle .generic ∧
      ∃ log o, noSigns.patchFile brokenSecond "r/a.cs".toList .generic =
        ⟨brokenSecond, log, .ok o⟩ ∧ o.hits = 1 ∧ o.written = false := by
  have hidle : noSigns.Idle .generic := ⟨rfl, rfl⟩
  have hread : brokenSecond.readSource "r/a.cs".toList = .ok ⟨['"', 'a', '"'], false⟩ := by cbv
  have hhits : (noSigns.patch .generic ['"', 'a', '"']).hits = 1 := by decide +kernel
  obtain ⟨-, -, hnonempty, -⟩ := hits_and_changes signs
  obtain ⟨-, -, -, -, hfile, -⟩ := hits_and_changes noSigns
  obtain ⟨log, o, ho, hh, -, hw⟩ :=
    hfile brokenSecond ⟨"r/a.cs".toList, .generic⟩ _ hread (.inr hidle)
  exact ⟨(hnonempty (by decide) _).2 (by decide +kernel), hidle, log, o, ho, hh.trans hhits, hw⟩

end Settings

end LiteralPatch
