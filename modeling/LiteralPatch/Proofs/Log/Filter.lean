import LiteralPatch.Log.Filter
import LiteralPatch.Proofs.Pattern.Quoted
import Mathlib.Data.List.Induction

namespace LiteralPatch

namespace Directive

def Covers (source : Text) (d : Directive) : Prop := d.scope.getD [] <+: source

instance (source : Text) : DecidablePred (Covers source) := fun d ↦
  inferInstanceAs (Decidable (d.scope.getD [] <+: source))

def width (d : Directive) : Nat := (d.scope.map Utf8.size).getD 0

end Directive

namespace LogFilter

variable {ds : List Directive} {d d' : Directive} {filter : LogFilter} {source : Text}
  {e : LogEntry}

theorem exists_concat_iff {P : List Directive → List Directive → Prop} :
    (∃ before after, ds ++ [d'] = before ++ d :: after ∧ P before after) ↔
      (d = d' ∧ P ds []) ∨
        ∃ before after, ds = before ++ d :: after ∧ P before (after ++ [d']) := by
  constructor
  · rintro ⟨before, after, hds, hP⟩
    rcases List.eq_nil_or_concat after with rfl | ⟨after, x, rfl⟩
    · obtain ⟨rfl, hd⟩ := List.append_inj' hds rfl
      exact .inl ⟨(List.singleton_inj.1 hd).symm, hP⟩
    · rw [List.concat_eq_append, ← List.cons_append, ← List.append_assoc] at hds
      obtain ⟨rfl, hd⟩ := List.append_inj' hds rfl
      obtain rfl := List.singleton_inj.1 hd
      exact .inr ⟨before, after, rfl, List.concat_eq_append ▸ hP⟩
  · rintro (⟨rfl, hP⟩ | ⟨before, after, rfl, hP⟩)
    · exact ⟨ds, [], rfl, hP⟩
    · exact ⟨before, after ++ [d'], by simp, hP⟩

/-- One directive is as wide as any before it, and wider than any behind it. -/
def Widest (ds : List Directive) (d : Directive) : Prop :=
  ∃ before after, ds = before ++ d :: after ∧
    (∀ x ∈ before, x.width ≤ d.width) ∧ ∀ x ∈ after, x.width < d.width

theorem Widest.width_le (h : Widest ds d) : ∀ x ∈ ds, x.width ≤ d.width := by
  obtain ⟨before, after, rfl, hbefore, hafter⟩ := h
  refine List.forall_mem_append.2 ⟨hbefore, List.forall_mem_cons.2 ⟨Nat.le_refl _, fun x hx ↦ ?_⟩⟩
  exact Nat.le_of_lt (hafter x hx)

theorem widest_concat : Widest (ds ++ [d']) d ↔
    (d = d' ∧ ∀ x ∈ ds, x.width ≤ d.width) ∨ (d'.width < d.width ∧ Widest ds d) := by
  rw [Widest, exists_concat_iff]
  simp only [Widest, List.forall_mem_append, List.forall_mem_singleton]
  constructor
  · rintro (⟨rfl, h, -⟩ | ⟨before, after, hds, hbefore, hafter, hlt⟩)
    · exact .inl ⟨rfl, h⟩
    · exact .inr ⟨hlt, before, after, hds, hbefore, hafter⟩
  · rintro (⟨rfl, h⟩ | ⟨hlt, before, after, hds, hbefore, hafter⟩)
    · exact .inl ⟨rfl, h, nofun⟩
    · exact .inr ⟨before, after, hds, hbefore, hafter, hlt⟩

def keep (best : Option Directive) (d : Directive) : Option Directive :=
  match best with
  | none => some d
  | some b => if b.width ≤ d.width then some d else some b

theorem foldl_keep_eq_none_iff : ds.foldl keep none = none ↔ ds = [] := by
  induction ds using List.reverseRecOn with
  | nil => exact ⟨fun _ ↦ rfl, fun _ ↦ rfl⟩
  | append_singleton ds d' ih =>
    have hkeep (best : Option Directive) : keep best d' ≠ none := by
      unfold keep
      split
      · exact Option.some_ne_none d'
      · split <;> exact Option.some_ne_none _
    rw [List.foldl_append]
    exact ⟨fun h ↦ (hkeep _ h).elim,
      fun h ↦ (List.append_ne_nil_of_right_ne_nil _ (List.cons_ne_nil _ _) h).elim⟩

theorem foldl_keep_eq_some_iff : ds.foldl keep none = some d ↔ Widest ds d := by
  induction ds using List.reverseRecOn generalizing d with
  | nil => exact ⟨nofun, fun ⟨_, _, h, _⟩ ↦ by simp at h⟩
  | append_singleton ds d' ih =>
    rw [List.foldl_append, List.foldl_cons, List.foldl_nil, widest_concat]
    cases hbest : ds.foldl keep none with
    | none =>
      obtain rfl := foldl_keep_eq_none_iff.1 hbest
      simp [keep, Widest, eq_comm]
    | some b =>
      have hb := ih.1 hbest
      have hds : Widest ds d ↔ b = d := by rw [← ih, hbest, Option.some.injEq]
      rw [keep, hds]
      split
      · next hle =>
        constructor
        · rintro ⟨⟩
          exact .inl ⟨rfl, fun x hx ↦ Nat.le_trans (hb.width_le x hx) hle⟩
        · rintro (⟨rfl, -⟩ | ⟨hlt, rfl⟩)
          · rfl
          · omega
      · next hlt =>
        constructor
        · rintro ⟨⟩
          exact .inr ⟨Nat.lt_of_not_le hlt, rfl⟩
        · rintro (⟨rfl, h⟩ | ⟨-, rfl⟩)
          · obtain ⟨before, after, rfl, -⟩ := hb
            exact (hlt (h b (by simp))).elim
          · rfl

/-- The directive with the longest scope decides, the last one of several. -/
theorem deciding?_eq_some_iff : filter.deciding? source = some d ↔
    Widest (filter.directives.filter (Directive.Covers source)) d := by
  have hfilter : filter.directives.filter (Directive.Covers source) =
      filter.directives.filter fun d ↦ (d.scope.getD []).isPrefixOf source := by
    refine List.filter_congr fun d _ ↦ Bool.eq_iff_iff.2 ?_
    rw [decide_eq_true_iff, List.isPrefixOf_iff_prefix]
    rfl
  rw [hfilter]
  exact foldl_keep_eq_some_iff

theorem mem_add : d ∈ add ds d' ↔ d = d' ∨ (d ∈ ds ∧ d.scope ≠ d'.scope) := by
  rw [add]
  split
  · next h =>
    obtain ⟨x, hx, hxd⟩ := List.any_eq_true.1 h
    rw [List.mem_map]
    constructor
    · rintro ⟨y, hy, rfl⟩
      split
      · exact .inl rfl
      · next hne => exact .inr ⟨hy, hne⟩
    · rintro (rfl | ⟨hd, hne⟩)
      · exact ⟨x, hx, if_pos (of_decide_eq_true hxd)⟩
      · exact ⟨d, hd, if_neg hne⟩
  · next h =>
    rw [List.mem_append, List.mem_singleton, or_comm]
    refine or_congr_right ⟨fun hd ↦ ⟨hd, fun heq ↦ h ?_⟩, And.left⟩
    exact List.any_eq_true.2 ⟨d, hd, decide_eq_true heq⟩

theorem mem_foldl_add : d ∈ ds.foldl add [] ↔
    ∃ before after, ds = before ++ d :: after ∧ ∀ x ∈ after, x.scope ≠ d.scope := by
  induction ds using List.reverseRecOn with
  | nil => simp
  | append_singleton ds d' ih =>
    rw [List.foldl_append, List.foldl_cons, List.foldl_nil, mem_add, ih, exists_concat_iff]
    simp only [List.forall_mem_append, List.forall_mem_singleton]
    constructor
    · rintro (rfl | ⟨⟨before, after, hds, hafter⟩, hne⟩)
      · exact .inl ⟨rfl, nofun⟩
      · exact .inr ⟨before, after, hds, hafter, hne.symm⟩
    · rintro (⟨rfl, -⟩ | ⟨before, after, hds, hafter, hne⟩)
      · exact .inl rfl
      · exact .inr ⟨⟨before, after, hds, hafter⟩, hne.symm⟩

theorem nodup_add (h : (ds.map Directive.scope).Nodup) :
    ((add ds d).map Directive.scope).Nodup := by
  rw [add]
  split
  · have hscope : (ds.map fun x ↦ if x.scope = d.scope then d else x).map Directive.scope =
        ds.map Directive.scope := by
      rw [List.map_map]
      refine List.map_congr_left fun x _ ↦ ?_
      by_cases hx : x.scope = d.scope <;> simp [hx]
    rwa [hscope]
  · next hany =>
    rw [List.map_append, List.map_singleton, List.nodup_append]
    refine ⟨h, by simp, fun a ha b hb hab ↦ hany ?_⟩
    obtain ⟨x, hx, rfl⟩ := List.mem_map.1 ha
    exact List.any_eq_true.2 ⟨x, hx, decide_eq_true (hab.trans (List.mem_singleton.1 hb))⟩

def spelled (text : Text) : List Directive :=
  (((text.splitOn ',').map Text.trim).filter (· ≠ [])).filterMap fun part ↦
    (directive part).toOption

theorem readDirectives_eq (text : Text) :
    (readDirectives text).1 = (spelled text).foldl add [] := by
  rw [readDirectives, spelled, List.foldl_filterMap]
  refine (List.foldl_hom Prod.fst fun x part ↦ ?_).symm
  cases directive part <;> simp [Except.toOption]

theorem mem_readDirectives {text : Text} : d ∈ (readDirectives text).1 ↔
    ∃ before after, spelled text = before ++ d :: after ∧ ∀ x ∈ after, x.scope ≠ d.scope := by
  rw [readDirectives_eq, mem_foldl_add]

theorem nodup_readDirectives (text : Text) :
    ((readDirectives text).1.map Directive.scope).Nodup := by
  rw [readDirectives_eq]
  induction spelled text using List.reverseRecOn with
  | nil => exact List.nodup_nil
  | append_singleton ds d ih =>
    rw [List.foldl_append]
    exact nodup_add ih

theorem shows_ofLevel (level : Level) :
    (ofLevel level).shows e = true ↔ e.level.rank ≤ level.rank := by
  simp [ofLevel, shows, admits, deciding?]

theorem shows_ofLevel_mono {level level' : Level} (hle : level.rank ≤ level'.rank)
    (h : (ofLevel level).shows e = true) : (ofLevel level').shows e = true :=
  (shows_ofLevel level').2 (Nat.le_trans ((shows_ofLevel level).1 h) hle)

theorem admits_iff : filter.admits e = true ↔ ∃ d level,
    Widest (filter.directives.filter (Directive.Covers e.source.toList)) d ∧
      d.level = some level ∧ e.level.rank ≤ level.rank := by
  simp only [admits, Option.any_eq_true, Option.bind_eq_some_iff, deciding?_eq_some_iff,
    decide_eq_true_iff]
  constructor
  · rintro ⟨level, ⟨d, hd, hlevel⟩, hle⟩
    exact ⟨d, level, hd, hlevel, hle⟩
  · rintro ⟨d, level, hd, hlevel, hle⟩
    exact ⟨level, ⟨d, hd, hlevel⟩, hle⟩

/-- A filter with a text behind a slash shows what it shows without, if the text is in the
message. -/
theorem shows_read_quoted_iff {text word : Text} (ht : '/' ∉ text) (hw : '/' ∉ word)
    (hsize : (Pattern.sequence (word.map Pattern.ofChar)).isTooLarge = false) :
    (read (text ++ '/' :: word.flatMap Pattern.quoted)).1.shows e = true ↔
      (read text).1.shows e = true ∧ word <:+: e.message.toList := by
  have hq : '/' ∉ word.flatMap Pattern.quoted := by
    intro h
    obtain ⟨c, hc, h⟩ := List.mem_flatMap.1 h
    rw [Pattern.quoted] at h
    have hne : '/' ≠ c := fun heq ↦ hw (heq ▸ hc)
    split at h <;> simp [hne] at h
  have hwith : (read (text ++ '/' :: word.flatMap Pattern.quoted)).1 = ofDirectives
      (readDirectives text).1 (some (Pattern.sequence (word.map Pattern.ofChar)).program) := by
    rw [read, List.splitOn_append_cons_self_of_not_mem ht, List.splitOn_eq_singleton hq]
    simp only [readPattern, Pattern.read_flatMap_quoted, hsize, Bool.false_eq_true, if_false]
  have hwithout : (read text).1 = ofDirectives (readDirectives text).1 none := by
    rw [read, List.splitOn_eq_singleton ht]
  rw [hwith, hwithout, shows, shows, Bool.and_eq_true_iff, Bool.and_eq_true_iff]
  change _ ∧ (Pattern.sequence _).program.occursIn _ = true ↔ (_ ∧ true = true) ∧ _
  rw [Pattern.occursIn_quoted_iff, and_iff_left rfl]
  exact Iff.rfl

end LogFilter

end LiteralPatch
