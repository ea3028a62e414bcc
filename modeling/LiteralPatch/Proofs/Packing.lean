import LiteralPatch.Proofs.Line

namespace LiteralPatch

namespace Matcher

variable {α : Type}

/-- Spans one behind the other, of those that stand somewhere; each of these starts in one of them.
-/
structure Packing (At : Nat × α → Prop) (len : α → Nat) (ps : List (Nat × α)) : Prop where
  stands : ∀ p ∈ ps, At p
  disjoint : ps.Pairwise fun p p' ↦ p.1 + len p.2 ≤ p'.1
  meets : ∀ x, At x → ∃ p ∈ ps, p.1 ≤ x.1 ∧ x.1 < p.1 + len p.2

variable {At At' : Nat × α → Prop} {len : α → Nat} {p x : Nat × α} {ps ps' : List (Nat × α)}

theorem Packing.congr (h : Packing At len ps) (he : ∀ x, At x ↔ At' x) : Packing At' len ps where
  stands p hp := (he p).1 (h.stands p hp)
  disjoint := h.disjoint
  meets x hx := h.meets x ((he x).2 hx)

theorem Packing.le_of_at (h : Packing At len (p :: ps)) (hx : At x) : p.1 ≤ x.1 := by
  obtain ⟨p', hp', hle, -⟩ := h.meets x hx
  rcases List.mem_cons.1 hp' with rfl | hp'
  · exact hle
  · have hpp := List.rel_of_pairwise_cons h.disjoint hp'
    omega

theorem Packing.tail (h : Packing At len (p :: ps)) :
    Packing (fun x ↦ At x ∧ p.1 + len p.2 ≤ x.1) len ps where
  stands p' hp' :=
    ⟨h.stands p' (List.mem_cons_of_mem p hp'), List.rel_of_pairwise_cons h.disjoint hp'⟩
  disjoint := (List.pairwise_cons.1 h.disjoint).2
  meets x hx := by
    obtain ⟨p', hp', hle, hlt⟩ := h.meets x hx.1
    rcases List.mem_cons.1 hp' with rfl | hp'
    · exact absurd hx.2 (Nat.not_le.2 hlt)
    · exact ⟨p', hp', hle, hlt⟩

theorem Packing.cons (hp : At p) (hfirst : ∀ x, At x → p.1 ≤ x.1)
    (h : Packing (fun x ↦ At x ∧ p.1 + len p.2 ≤ x.1) len ps) : Packing At len (p :: ps) where
  stands := List.forall_mem_cons.2 ⟨hp, fun p' hp' ↦ (h.stands p' hp').1⟩
  disjoint := List.pairwise_cons.2 ⟨fun p' hp' ↦ (h.stands p' hp').2, h.disjoint⟩
  meets x hx := by
    by_cases hlt : x.1 < p.1 + len p.2
    · exact ⟨p, List.mem_cons_self, hfirst x hx, hlt⟩
    · obtain ⟨p', hp', hx'⟩ := h.meets x ⟨hx, Nat.not_lt.1 hlt⟩
      exact ⟨p', List.mem_cons_of_mem p hp', hx'⟩

theorem Packing.unique (hu : ∀ p p', At p → At p' → p.1 = p'.1 → p = p')
    (h : Packing At len ps) (h' : Packing At len ps') : ps = ps' := by
  induction ps generalizing At ps' with
  | nil =>
    cases ps' with
    | nil => rfl
    | cons p' ps' =>
      obtain ⟨p, hp, -⟩ := h.meets p' (h'.stands p' List.mem_cons_self)
      exact absurd hp List.not_mem_nil
  | cons p ps ih =>
    have hp : At p := h.stands p List.mem_cons_self
    cases ps' with
    | nil =>
      obtain ⟨p', hp', -⟩ := h'.meets p hp
      exact absurd hp' List.not_mem_nil
    | cons p' ps' =>
      have hp' : At p' := h'.stands p' List.mem_cons_self
      -- Each of the two first spans starts no later than the other.
      obtain rfl : p = p' := hu p p' hp hp' (Nat.le_antisymm (h.le_of_at hp') (h'.le_of_at hp))
      rw [ih (fun x y hx hy ↦ hu x y hx.1 hy.1) h.tail h'.tail]

variable (m : Matcher α) {s t : Text}

def MatchesAt (s : Text) (p : Nat × α) : Prop := ∃ r, m.run (s.drop p.1) = some (p.2, r)

variable {m}

theorem MatchesAt.unique {p p' : Nat × α} (h : m.MatchesAt s p) (h' : m.MatchesAt s p')
    (he : p.1 = p'.1) : p = p' := by
  obtain ⟨r, hr⟩ := h
  obtain ⟨r', hr'⟩ := h'
  rw [he, hr'] at hr
  exact Prod.ext he (Prod.mk.inj (Option.some.inj hr)).1.symm

theorem matchesAt_append (x : Text) (i : Nat) (a : α) :
    m.MatchesAt (x ++ t) (x.length + i, a) ↔ m.MatchesAt t (i, a) := by
  rw [MatchesAt, MatchesAt, List.drop_length_add_append]

theorem Packing.behind (x : Text) (h : Packing (m.MatchesAt t) len ps) :
    Packing (fun p ↦ m.MatchesAt (x ++ t) p ∧ x.length ≤ p.1) len
      (ps.map fun p ↦ (x.length + p.1, p.2)) where
  stands := by
    refine List.forall_mem_map.2 fun p hp ↦ ⟨?_, Nat.le_add_right _ _⟩
    exact (matchesAt_append x p.1 p.2).2 (h.stands p hp)
  disjoint := by
    refine List.pairwise_map.2 (h.disjoint.imp fun hpp ↦ ?_)
    dsimp only
    omega
  meets := by
    rintro ⟨i, a⟩ ⟨hx, hle⟩
    obtain ⟨j, rfl⟩ := Nat.exists_eq_add_of_le hle
    obtain ⟨p, hp, hj⟩ := h.meets (j, a) ((matchesAt_append x j a).1 hx)
    refine ⟨_, List.mem_map.2 ⟨p, hp, rfl⟩, ?_⟩
    dsimp only at hj ⊢
    omega

theorem packing_located (m : Matcher α) (s : Text) :
    Packing (m.MatchesAt s) (fun a ↦ (m.spell a).length) (m.located (m.segments s)) := by
  induction s using m.induction with
  | nil =>
    rw [m.segments_nil]
    refine ⟨nofun, .nil, ?_⟩
    rintro x ⟨r, hr⟩
    rw [List.drop_nil, m.run_nil] at hr
    cases hr
  | plain c s hr ih =>
    rw [m.segments_of_not_run hr]
    refine (ih.behind [c]).congr fun p ↦ ⟨And.left, fun hp ↦ ⟨hp, Nat.one_le_iff_ne_zero.2 ?_⟩⟩
    intro hz
    obtain ⟨r, hp⟩ := hp
    rw [hz, List.drop_zero, hr] at hp
    cases hp
  | span a s r hr ih =>
    rw [m.segments_of_run hr]
    refine .cons ⟨r, hr⟩ (fun _ _ ↦ Nat.zero_le _) ((ih.behind (m.spell a)).congr fun p ↦ ?_)
    rw [m.spell_append hr, Nat.zero_add]

/-- The spans of the scan are the only ones that follow one another and leave out no start. -/
theorem packing_iff :
    Packing (m.MatchesAt s) (fun a ↦ (m.spell a).length) ps ↔ ps = m.located (m.segments s) := by
  constructor
  · exact fun h ↦ h.unique (fun _ _ ↦ MatchesAt.unique) (m.packing_located s)
  · rintro rfl
    exact m.packing_located s

end Matcher

end LiteralPatch
