import LiteralPatch.Proofs.Insertion
import LiteralPatch.Scan

namespace LiteralPatch

namespace Segment

variable {α : Type}

inductive Rel (R : α → α → Prop) : Segment α → Segment α → Prop
  | plain (c : Char) : Rel R (.plain c) (.plain c)
  | span {a b : α} : R a b → Rel R (.span a) (.span b)

def span? : Segment α → Option α
  | plain _ => none
  | span a => some a

end Segment

namespace Matcher

variable {α : Type} (m : Matcher α)

@[elab_as_elim]
theorem induction {P : Text → Prop} (s : Text) (nil : P [])
    (plain : ∀ c s, m.run (c :: s) = none → P s → P (c :: s))
    (span : ∀ a s r, m.run s = some (a, r) → P r → P s) : P s := by
  induction hn : s.length using Nat.strongRecOn generalizing s with
  | ind n ih =>
    cases s with
    | nil => exact nil
    | cons c s =>
      cases h : m.run (c :: s) with
      | none => exact plain c s h (ih s.length (by simp [← hn]) s rfl)
      | some p =>
        have hl := m.length_rest_lt h
        exact span p.1 _ p.2 h (ih p.2.length (by omega) p.2 rfl)

def located : List (Segment α) → List (Nat × α)
  | [] => []
  | .plain _ :: t => (located t).map fun p ↦ (1 + p.1, p.2)
  | .span a :: t => (0, a) :: (located t).map fun p ↦ ((m.spell a).length + p.1, p.2)

theorem exists_run_drop {s : Text} {p : Nat × α} (h : p ∈ m.located (m.segments s)) :
    ∃ r, m.run (s.drop p.1) = some (p.2, r) := by
  induction s using m.induction generalizing p with
  | nil => simp [located, segments_nil] at h
  | plain c s hr ih =>
    rw [m.segments_of_not_run hr, located, List.mem_map] at h
    obtain ⟨p, hp, rfl⟩ := h
    rw [Nat.add_comm 1, List.drop_succ_cons]
    exact ih hp
  | span a s r hr ih =>
    rw [m.segments_of_run hr, located, List.mem_cons, List.mem_map] at h
    rcases h with rfl | ⟨p, hp, rfl⟩
    · exact ⟨r, hr⟩
    · rw [← m.spell_append hr, List.drop_length_add_append]
      exact ih hp

theorem map_snd_located (gs : List (Segment α)) :
    (m.located gs).map Prod.snd = gs.filterMap Segment.span? := by
  induction gs with
  | nil => rfl
  | cons g gs ih =>
    cases g with
    | plain c =>
      rw [located, List.map_map]
      exact ih
    | span a =>
      rw [located, List.map_cons, List.map_map]
      exact congrArg (a :: ·) ih

def points (cut : α → Option Nat) (s : Text) : List Nat :=
  (m.located (m.segments s)).filterMap fun p ↦ (cut p.2).map (p.1 + ·)

variable (cut : α → Option Nat)

theorem points_nil : m.points cut [] = [] := by
  simp [points, located, segments_nil]

theorem points_of_not_run {c : Char} {s : Text} (h : m.run (c :: s) = none) :
    m.points cut (c :: s) = (m.points cut s).map (1 + ·) := by
  rw [points, points, m.segments_of_not_run h, located, List.filterMap_map, List.map_filterMap]
  congr 1
  funext p
  simp [Function.comp_def, Nat.add_assoc]

theorem points_of_run {s r : Text} {a : α} (h : m.run s = some (a, r)) :
    m.points cut s = (cut a).toList ++ (m.points cut r).map ((m.spell a).length + ·) := by
  have ht : ((m.located (m.segments r)).map fun p ↦ ((m.spell a).length + p.1, p.2)).filterMap
      (fun p ↦ (cut p.2).map (p.1 + ·)) =
      (m.points cut r).map ((m.spell a).length + ·) := by
    rw [points, List.filterMap_map, List.map_filterMap]
    congr 1
    funext p
    simp [Function.comp_def, Nat.add_assoc]
  rw [points, m.segments_of_run h, located, List.filterMap_cons, ht]
  cases cut a <;> simp

theorem points_eq_nil_iff {s : Text} : m.points cut s = [] ↔
    ∀ a ∈ (m.segments s).filterMap Segment.span?, cut a = none := by
  rw [points, List.filterMap_eq_nil_iff, ← m.map_snd_located, List.forall_mem_map]
  simp only [Option.map_eq_none_iff]

theorem exists_of_mem_points {s : Text} {i : Nat} (h : i ∈ m.points cut s) :
    ∃ x a r n, s = x ++ (m.spell a ++ r) ∧ m.run (m.spell a ++ r) = some (a, r) ∧
      cut a = some n ∧ x.length + n = i := by
  obtain ⟨p, hp, hn⟩ := List.mem_filterMap.1 h
  obtain ⟨n, hc, hi⟩ := Option.map_eq_some_iff.1 hn
  obtain ⟨r, hr⟩ := m.exists_run_drop hp
  have hle : p.1 ≤ s.length := by
    have hpos := m.length_rest_lt hr
    rw [List.length_drop] at hpos
    omega
  have hs : m.spell p.2 ++ r = s.drop p.1 := m.spell_append hr
  refine ⟨s.take p.1, p.2, r, n, ?_, hs ▸ hr, hc, ?_⟩
  · rw [hs, List.take_append_drop]
  · rw [List.length_take_of_le hle, hi]

theorem replace_nil (change : α → Option Text) : m.replace change [] = ⟨[], 0⟩ := by
  simp [replace, segments_nil]

theorem replace_of_not_run (change : α → Option Text) {c : Char} {s : Text}
    (h : m.run (c :: s) = none) :
    m.replace change (c :: s) =
      ⟨c :: (m.replace change s).content, (m.replace change s).hits⟩ := by
  simp [replace, m.segments_of_not_run h, Segment.replaced, Segment.isHit]

theorem replace_of_run (change : α → Option Text) {s r : Text} {a : α}
    (h : m.run s = some (a, r)) :
    m.replace change s =
      ⟨(change a).getD (m.spell a) ++ (m.replace change r).content,
        (change a).toList.length + (m.replace change r).hits⟩ := by
  have hl : (change a).toList.length = if Segment.isHit change (.span a) then 1 else 0 := by
    rw [Segment.isHit]
    cases change a <;> rfl
  simp only [replace, m.segments_of_run h, List.flatMap_cons, List.countP_cons, Segment.replaced,
    hl, Nat.add_comm]

/-- An edit that puts one text behind a point of each span it changes. -/
def InsertsAt (insert : Text) (change : α → Option Text) : Prop :=
  ∀ a s r, m.run s = some (a, r) →
    (∀ n, cut a = some n → n < (m.spell a).length) ∧
    change a = (cut a).map fun n ↦ (m.spell a).take (n + 1) ++ insert ++ (m.spell a).drop (n + 1)

variable {m cut}

theorem content_replace_of_hits_eq_zero {change : α → Option Text} {s : Text}
    (h : (m.replace change s).hits = 0) : (m.replace change s).content = s := by
  induction s using m.induction with
  | nil => rw [m.replace_nil]
  | plain c s hr ih =>
    rw [m.replace_of_not_run change hr] at h ⊢
    exact congrArg (c :: ·) (ih h)
  | span a s r hr ih =>
    rw [m.replace_of_run change hr] at h ⊢
    obtain ⟨ha, hs⟩ := Nat.add_eq_zero_iff.1 h
    have hc : change a = none := by simpa using ha
    rw [hc, ih hs]
    exact m.spell_append hr

theorem InsertsAt.hits_replace {insert : Text} {change : α → Option Text}
    (h : m.InsertsAt cut insert change) (s : Text) :
    (m.replace change s).hits = (m.points cut s).length := by
  induction s using m.induction with
  | nil => simp [replace_nil, points_nil]
  | plain c s hr ih => simp [m.replace_of_not_run _ hr, m.points_of_not_run _ hr, ih]
  | span a s r hr ih =>
    rw [m.replace_of_run _ hr, m.points_of_run _ hr, (h a s r hr).2]
    simp only [List.length_append, List.length_map, ih]
    cases cut a <;> simp

theorem countP_content_replace {P : Char → Bool} {change : α → Option Text} {k : Nat}
    (h : ∀ a s r x, m.run s = some (a, r) → change a = some x →
      x.countP P = (m.spell a).countP P + k) (s : Text) :
    (m.replace change s).content.countP P = s.countP P + (m.replace change s).hits * k := by
  induction s using m.induction with
  | nil => simp [replace_nil]
  | plain c s hr ih =>
    rw [m.replace_of_not_run _ hr]
    simp only [List.countP_cons, ih]
    omega
  | span a s r hr ih =>
    have hs : s.countP P = (m.spell a).countP P + r.countP P := by
      rw [← List.countP_append, m.spell_append hr]
    have ha : ((change a).getD (m.spell a)).countP P =
        (m.spell a).countP P + (change a).toList.length * k := by
      cases hc : change a with
      | none => simp
      | some x => simpa using h a s r x hr hc
    rw [m.replace_of_run _ hr, List.countP_append, ha, ih, hs, Nat.add_mul]
    omega

theorem InsertsAt.countP_content_replace {P : Char → Bool} {insert : Text}
    {change : α → Option Text} (h : m.InsertsAt cut insert change) (s : Text) :
    (m.replace change s).content.countP P =
      s.countP P + (m.replace change s).hits * insert.countP P := by
  refine m.countP_content_replace (fun a s r x hr hx ↦ ?_) s
  rw [(h a s r hr).2] at hx
  obtain ⟨n, -, rfl⟩ := Option.map_eq_some_iff.1 hx
  have htd := congrArg (List.countP P) (List.take_append_drop (n + 1) (m.spell a))
  simp only [List.countP_append] at htd ⊢
  omega

theorem InsertsAt.pairwise_points {insert : Text} {change : α → Option Text}
    (h : m.InsertsAt cut insert change) (s : Text) : (m.points cut s).Pairwise (· < ·) := by
  induction s using m.induction with
  | nil =>
    rw [points_nil]
    exact .nil
  | plain c s hr ih =>
    rw [m.points_of_not_run _ hr, List.pairwise_map]
    exact ih.imp (Nat.add_lt_add_left · 1)
  | span a s r hr ih =>
    rw [m.points_of_run _ hr, List.pairwise_append, List.pairwise_map]
    refine ⟨?_, ih.imp (Nat.add_lt_add_left · _), fun i hi j hj ↦ ?_⟩
    · cases cut a <;> simp
    · obtain ⟨k, -, rfl⟩ := List.mem_map.1 hj
      have hlt := (h a s r hr).1 i (Option.mem_toList.1 hi)
      omega

/-- Such an edit is an insertion behind the points of the scan. -/
theorem InsertsAt.content_replace {insert : Text} {change : α → Option Text}
    (h : m.InsertsAt cut insert change) (s : Text) :
    (m.replace change s).content =
      s.insertBehind fun i ↦ if i ∈ m.points cut s then insert else [] := by
  induction s using m.induction with
  | nil => simp [replace_nil, Text.insertBehind]
  | plain c s hr ih =>
    have hz : 0 ∉ (m.points cut s).map (1 + ·) := by simp
    have hs (i : Nat) : i + 1 ∈ (m.points cut s).map (1 + ·) ↔ i ∈ m.points cut s := by
      simp [Nat.add_comm]
    simp only [m.replace_of_not_run _ hr, m.points_of_not_run _ hr, ih, Text.insertBehind,
      if_neg hz, hs, List.nil_append]
  | span a s r hr ih =>
    obtain ⟨hlt, hc⟩ := h a s r hr
    have hp (i : Nat) : i ∈ m.points cut s ↔
        cut a = some i ∨ ∃ j ∈ m.points cut r, (m.spell a).length + j = i := by
      rw [m.points_of_run _ hr]
      simp
    have hfront (i : Nat) (hi : i < (m.spell a).length) :
        i ∈ m.points cut s ↔ cut a = some i := by
      rw [hp]
      refine or_iff_left ?_
      rintro ⟨j, -, hj⟩
      omega
    have hback (i : Nat) : (m.spell a).length + i ∈ m.points cut s ↔ i ∈ m.points cut r := by
      rw [hp]
      constructor
      · rintro (hn | ⟨j, hj, he⟩)
        · have := hlt _ hn
          omega
        · obtain rfl : j = i := by omega
          exact hj
      · exact fun hi ↦ .inr ⟨i, hi, rfl⟩
    have ha : (m.spell a).insertBehind (fun i ↦ if i ∈ m.points cut s then insert else []) =
        (change a).getD (m.spell a) := by
      rw [hc, ← Text.insertBehind_option insert (cut a) hlt]
      exact Text.insertBehind_congr fun i hi ↦ by simp only [hfront i hi]
    rw [m.replace_of_run _ hr, ih, ← ha]
    simp only [← hback]
    rw [← Text.insertBehind_append _ (m.spell a) r, m.spell_append hr]

end Matcher

end LiteralPatch
