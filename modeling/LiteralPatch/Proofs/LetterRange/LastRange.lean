import LiteralPatch.Proofs.LetterRange.Quoted

namespace LiteralPatch

def Text.occurrences (ps : List Text) (s : Text) : List Nat :=
  (List.range s.length).filter fun i ↦ ∃ p ∈ ps, p <+: s.drop i

theorem Text.mem_occurrences_singleton {c : Char} {s : Text} {i : Nat} :
    i ∈ occurrences [[c]] s ↔ s[i]? = some c := by
  rw [occurrences, List.mem_filter, List.mem_range]
  constructor
  · rintro ⟨-, h⟩
    obtain ⟨t, ht⟩ : [c] <+: s.drop i := by simpa using h
    have hd : (s.drop i)[0]? = some c := by rw [← ht]; rfl
    simpa using hd
  · intro h
    obtain ⟨hi, rfl⟩ := List.getElem?_eq_some_iff.1 h
    have hp : [s[i]] <+: s.drop i := ⟨s.drop (i + 1), (List.drop_eq_getElem_cons hi).symm⟩
    exact ⟨hi, decide_eq_true ⟨_, List.mem_singleton_self _, hp⟩⟩

namespace LetterRange

def enclosed (q : Char) (l : Text) : List Nat :=
  match (Text.occurrences [[q]] l).min?, (Text.occurrences [[q]] l).max? with
  | some first, some last =>
    (Text.occurrences spellings l).filter fun i ↦ first < i ∧ i + 6 ≤ last
  | _, _ => []

def insertAtLast (q : Char) (insert l : Text) : Edit :=
  match (enclosed q l).max? with
  | some i => ⟨l.take (i + 6) ++ insert ++ l.drop (i + 6), 1⟩
  | none => ⟨l, 0⟩

variable {q : Char} {l : Text} {i : Nat}

theorem mem_take_iff : q ∈ l.take i ↔ ∃ j ∈ Text.occurrences [[q]] l, j < i := by
  simp only [Text.mem_occurrences_singleton]
  rw [List.mem_iff_getElem?]
  simp only [List.getElem?_take, Option.ite_none_right_eq_some]
  exact exists_congr fun _ ↦ and_comm

theorem mem_drop_iff : q ∈ l.drop i ↔ ∃ j ∈ Text.occurrences [[q]] l, i ≤ j := by
  simp only [Text.mem_occurrences_singleton]
  rw [List.mem_iff_getElem?]
  simp only [List.getElem?_drop]
  constructor
  · rintro ⟨j, h⟩
    exact ⟨i + j, h, Nat.le_add_right i j⟩
  · rintro ⟨j, h, hj⟩
    exact ⟨j - i, by rwa [Nat.add_sub_cancel' hj]⟩

theorem mem_occurrences_spellings :
    i ∈ Text.occurrences spellings l ↔
      ∃ k : Cut, k.spell = l ∧ k.range ∈ spellings ∧ k.before.length = i := by
  rw [Text.occurrences, List.mem_filter, List.mem_range, decide_eq_true_iff]
  constructor
  · rintro ⟨hi, r, hr, t, ht⟩
    refine ⟨⟨l.take i, r, t⟩, ?_, hr, List.length_take_of_le (Nat.le_of_lt hi)⟩
    rw [Cut.spell, List.append_assoc, ht, List.take_append_drop]
  · rintro ⟨⟨x, r, y⟩, rfl, hr, rfl⟩
    have hl := length_of_mem_spellings hr
    refine ⟨?_, r, hr, y, ?_⟩
    · simp only [Cut.spell, List.length_append, hl]
      omega
    · simp [Cut.spell]

theorem mem_enclosed_iff :
    i ∈ enclosed q l ↔
      i ∈ Text.occurrences spellings l ∧ q ∈ l.take i ∧ q ∈ l.drop (i + 6) := by
  rw [mem_take_iff, mem_drop_iff, enclosed]
  split
  · next first last hf hl =>
    obtain ⟨hf, hfirst⟩ := List.min?_eq_some_iff.1 hf
    obtain ⟨hl, hlast⟩ := List.max?_eq_some_iff.1 hl
    rw [List.mem_filter, decide_eq_true_iff]
    refine and_congr_right fun _ ↦ ⟨fun ⟨h, h'⟩ ↦ ⟨⟨first, hf, h⟩, last, hl, h'⟩, ?_⟩
    -- Any quote on a side puts the outermost one there.
    rintro ⟨⟨j, hj, h⟩, j', hj', h'⟩
    exact ⟨Nat.lt_of_le_of_lt (hfirst j hj) h, Nat.le_trans h' (hlast j' hj')⟩
  · next hnone =>
    refine ⟨nofun, ?_⟩
    rintro ⟨-, ⟨j, hj, -⟩, -⟩
    cases hf : (Text.occurrences [[q]] l).min? with
    | none => simp [List.min?_eq_none_iff.1 hf] at hj
    | some first =>
      cases hl : (Text.occurrences [[q]] l).max? with
      | none => simp [List.max?_eq_none_iff.1 hl] at hj
      | some last => exact absurd hl (hnone first last hf)

theorem Cut.take_spell (k : Cut) : k.spell.take k.before.length = k.before := by
  simp [spell]

theorem Cut.take_spell_range (k : Cut) (h : k.range ∈ spellings) :
    k.spell.take (k.before.length + 6) = k.before ++ k.range := by
  rw [← length_of_mem_spellings h, ← List.length_append, spell, List.take_left]

theorem Cut.drop_spell_range (k : Cut) (h : k.range ∈ spellings) :
    k.spell.drop (k.before.length + 6) = k.after := by
  rw [← length_of_mem_spellings h, ← List.length_append, spell, List.drop_left]

theorem mem_enclosed_iff_exists :
    i ∈ enclosed q l ↔ ∃ k : Cut, k.IsQuoted q l ∧ k.before.length = i := by
  rw [mem_enclosed_iff, mem_occurrences_spellings]
  constructor
  · rintro ⟨⟨k, rfl, hr, rfl⟩, hb, ha⟩
    rw [k.take_spell] at hb
    rw [k.drop_spell_range hr] at ha
    exact ⟨k, ⟨rfl, hr, hb, ha⟩, rfl⟩
  · rintro ⟨k, ⟨rfl, hr, hb, ha⟩, rfl⟩
    rw [k.take_spell, k.drop_spell_range hr]
    exact ⟨⟨k, rfl, hr, rfl⟩, hb, ha⟩

theorem enclosed_eq_nil_iff : enclosed q l = [] ↔ ¬HasQuotedRange q l := by
  rw [hasQuotedRange_iff, List.eq_nil_iff_forall_not_mem]
  simp only [mem_enclosed_iff_exists]
  exact ⟨fun h ⟨k, hk⟩ ↦ h _ ⟨k, hk, rfl⟩, fun h _ ⟨k, hk, _⟩ ↦ h ⟨k, hk⟩⟩

theorem Cut.IsLast.max?_enclosed {k : Cut} (h : k.IsLast q l) :
    (enclosed q l).max? = some k.before.length := by
  refine List.max?_eq_some_iff.2 ⟨mem_enclosed_iff_exists.2 ⟨k, h.toIsQuoted, rfl⟩, ?_⟩
  intro i hi
  obtain ⟨k', hk', rfl⟩ := mem_enclosed_iff_exists.1 hi
  exact h.length_le k' hk'

theorem Cut.IsLast.insertAtLast_eq {k : Cut} (h : k.IsLast q l) (insert : Text) :
    insertAtLast q insert l = ⟨Rule.insertInCut insert k, 1⟩ := by
  rw [insertAtLast, h.max?_enclosed, ← h.spell_eq]
  simp only [k.take_spell_range h.range_mem, k.drop_spell_range h.range_mem, Rule.insertInCut]

theorem replace_line_eq_insertAtLast (insert : Text) (hl : '\n' ∉ l) :
    (matcher q).replace (fun k ↦ some (Rule.insertInCut insert k)) l = insertAtLast q insert l := by
  by_cases h : HasQuotedRange q l
  · obtain ⟨k, hk, he⟩ := replace_line hl h insert
    rw [he, hk.insertAtLast_eq]
  · rw [replace_line_of_not hl h, insertAtLast, enclosed_eq_nil_iff.2 h]
    rfl

theorem hits_insertAtLast (q : Char) (insert l : Text) :
    (insertAtLast q insert l).hits = if enclosed q l = [] then 0 else 1 := by
  rw [insertAtLast]
  split
  · next hi => rw [if_neg fun h ↦ by simp [h] at hi]
  · next hi => rw [if_pos (List.max?_eq_none_iff.1 hi)]

theorem hits_joinLines_insertAtLast (q : Char) (insert : Text) (ls : List Text) :
    (Edit.joinLines (ls.map (insertAtLast q insert))).hits =
      ls.countP fun l ↦ enclosed q l ≠ [] :=
  Edit.hits_joinLines_map (fun l ↦ by simp [hits_insertAtLast]) ls

/-- On each line the text goes behind the last range between the outermost quotes, and the hits are
the lines that have one. -/
theorem apply_range_eq_joinLines (w : Whitelist) (q : Quote) (s : Text) :
    (Rule.ofWhitelist w .range q).apply s =
        Edit.joinLines ((s.splitOn '\n').map (insertAtLast q.mark (w.escaped q))) ∧
      ((Rule.ofWhitelist w .range q).apply s).hits =
        (s.splitOn '\n').countP (fun l ↦ enclosed q.mark l ≠ []) ∧
      ((Rule.ofWhitelist w .range q).apply s).hits ≤ (s.splitOn '\n').length := by
  have he : (Rule.ofWhitelist w .range q).apply s =
      Edit.joinLines ((s.splitOn '\n').map (insertAtLast q.mark (w.escaped q))) := by
    rw [Rule.ofWhitelist, apply_range,
      (lineLocal_matcher q.mark_ne_newline).replace_eq_joinLines]
    congr 1
    refine List.map_congr_left fun l hl ↦ ?_
    exact replace_line_eq_insertAtLast _ (Text.newline_not_mem_of_mem_splitOn hl)
  have hhits := (congrArg Edit.hits he).trans (hits_joinLines_insertAtLast _ _ _)
  exact ⟨he, hhits, hhits ▸ List.countP_le_length⟩

theorem apply_range_eq_joinLines_spellings :
    (Rule.ofWhitelist ⟨['#']⟩ .range .double).apply
        "\"[^a-zA-Z0-9]\"\n\"[A-Za-z]+\" a-zA-Z\n\"a-zA-Za-z\"".toList =
      ⟨"\"[^a-zA-Z#0-9]\"\n\"[A-Za-z#]+\" a-zA-Z\n\"a-zA-Za-z#\"".toList, 3⟩ := by
  have h := apply_range_eq_joinLines ⟨['#']⟩ .double
    "\"[^a-zA-Z0-9]\"\n\"[A-Za-z]+\" a-zA-Z\n\"a-zA-Za-z\"".toList
  exact h.1.trans (by decide +kernel)

end LetterRange

end LiteralPatch
