import LiteralPatch.Text

namespace LiteralPatch

namespace CharSet

/-- Ranges in ascending order, none of them empty, and with a gap between each two. -/
structure Ascending (rs : List (Nat × Nat)) : Prop where
  le : ∀ r ∈ rs, r.1 ≤ r.2
  apart : rs.Pairwise fun r r' ↦ r.2 + 1 < r'.1

/-- All numbers of a range are characters. -/
def Scalar (r : Nat × Nat) : Prop := r.2 < 0xd800 ∨ 0xe000 ≤ r.1 ∧ r.2 < 0x110000

end CharSet

structure CharSet where
  ranges : List (Nat × Nat)
  ascending : CharSet.Ascending ranges
  scalar : ∀ r ∈ ranges, CharSet.Scalar r
  deriving DecidableEq, Repr

namespace CharSet

def mem (s : CharSet) (c : Char) : Bool :=
  s.ranges.any fun (first, last) ↦ first ≤ c.toNat && c.toNat ≤ last

/-- Cuts the surrogates, which are no characters, out of a range. -/
def scalars : Nat × Nat → List (Nat × Nat)
  | (first, last) =>
    (if first ≤ min last 0xd7ff then [(first, min last 0xd7ff)] else []) ++
      if max first 0xe000 ≤ min last 0x10ffff then [(max first 0xe000, min last 0x10ffff)] else []

def placed (r : Nat × Nat) : List (Nat × Nat) → List (Nat × Nat)
  | [] => [r]
  | s :: rs => if r.1 ≤ s.1 then r :: s :: rs else s :: placed r rs

/-- Joins ranges in ascending order that overlap or touch; `done` comes in descending order. -/
def joined : List (Nat × Nat) → List (Nat × Nat) → List (Nat × Nat)
  | done, [] => done.reverse
  | [], r :: rs => joined [r] rs
  | (a, b) :: done, (c, d) :: rs =>
    if c ≤ b + 1 then joined ((a, max b d) :: done) rs else joined ((c, d) :: (a, b) :: done) rs

variable {rs done : List (Nat × Nat)} {r r' : Nat × Nat}

theorem le_of_mem_scalars (h : r' ∈ scalars r) : r'.1 ≤ r'.2 := by
  rw [scalars, List.mem_append] at h
  rcases h with h | h <;>
  · split at h
    · next hle =>
      obtain rfl := List.mem_singleton.1 h
      exact hle
    · cases h

theorem scalar_of_mem_scalars (h : r' ∈ scalars r) : Scalar r' := by
  rw [scalars, List.mem_append] at h
  rcases h with h | h <;>
  · split at h
    · obtain rfl := List.mem_singleton.1 h
      simp only [Scalar]
      omega
    · cases h

theorem mem_placed : r' ∈ placed r rs ↔ r' ∈ r :: rs := by
  induction rs with
  | nil => rfl
  | cons x rs ih =>
    rw [placed]
    split
    · rfl
    · rw [List.mem_cons, ih, List.mem_cons, List.mem_cons, List.mem_cons, or_left_comm]

theorem pairwise_placed (h : rs.Pairwise fun r r' ↦ r.1 ≤ r'.1) :
    (placed r rs).Pairwise fun r r' ↦ r.1 ≤ r'.1 := by
  induction rs with
  | nil => exact List.pairwise_singleton _ _
  | cons x rs ih =>
    obtain ⟨hx, hrs⟩ := List.pairwise_cons.1 h
    rw [placed]
    split
    · next hle =>
      refine List.pairwise_cons.2 ⟨fun y hy ↦ ?_, h⟩
      rcases List.mem_cons.1 hy with rfl | hy
      · exact hle
      · exact Nat.le_trans hle (hx y hy)
    · next hlt =>
      refine List.pairwise_cons.2 ⟨fun y hy ↦ ?_, ih hrs⟩
      rcases List.mem_cons.1 (mem_placed.1 hy) with rfl | hy
      · exact Nat.le_of_lt (Nat.not_le.1 hlt)
      · exact hx y hy

theorem mem_foldr_placed : r' ∈ rs.foldr placed [] ↔ r' ∈ rs := by
  induction rs with
  | nil => rfl
  | cons x rs ih => rw [List.foldr_cons, mem_placed, List.mem_cons, ih, List.mem_cons]

theorem pairwise_foldr_placed (rs : List (Nat × Nat)) :
    (rs.foldr placed []).Pairwise fun r r' ↦ r.1 ≤ r'.1 := by
  induction rs with
  | nil => exact .nil
  | cons x rs ih => exact pairwise_placed ih

theorem le_of_mem_head? (h : ∀ r' ∈ rs, r.1 ≤ r'.1) :
    ∀ d ∈ (r :: done).head?, ∀ r' ∈ rs, d.1 ≤ r'.1 := by
  simpa using h

theorem ascending_joined (hle : ∀ r ∈ rs, r.1 ≤ r.2) (hrs : rs.Pairwise fun r r' ↦ r.1 ≤ r'.1)
    (hdone : ∀ r ∈ done, r.1 ≤ r.2) (hapart : done.Pairwise fun r r' ↦ r'.2 + 1 < r.1)
    (hd : ∀ d ∈ done.head?, ∀ r ∈ rs, d.1 ≤ r.1) : Ascending (joined done rs) := by
  induction rs generalizing done with
  | nil =>
    rw [joined]
    exact ⟨fun r hr ↦ hdone r (List.mem_reverse.1 hr), List.pairwise_reverse.2 hapart⟩
  | cons x rs ih =>
    obtain ⟨c, d⟩ := x
    obtain ⟨hx, hrs⟩ := List.pairwise_cons.1 hrs
    obtain ⟨hcd, hle⟩ := List.forall_mem_cons.1 hle
    cases done with
    | nil =>
      rw [joined]
      exact ih hle hrs (List.forall_mem_singleton.2 hcd) (List.pairwise_singleton _ _)
        (le_of_mem_head? hx)
    | cons y done =>
      obtain ⟨a, b⟩ := y
      obtain ⟨hab, hdone⟩ := List.forall_mem_cons.1 hdone
      obtain ⟨hy, hapart⟩ := List.pairwise_cons.1 hapart
      have hac : a ≤ c := hd (a, b) rfl _ List.mem_cons_self
      rw [joined]
      split
      · have hax : ∀ r ∈ rs, (a, max b d).1 ≤ r.1 := fun r hr ↦ Nat.le_trans hac (hx r hr)
        have hmax : a ≤ max b d := Nat.le_trans hab (Nat.le_max_left b d)
        exact ih hle hrs (List.forall_mem_cons.2 ⟨hmax, hdone⟩) (List.pairwise_cons.2 ⟨hy, hapart⟩)
          (le_of_mem_head? hax)
      · next hlt =>
        have hnew : ∀ r ∈ (a, b) :: done, r.2 + 1 < c := by
          refine List.forall_mem_cons.2 ⟨Nat.not_le.1 hlt, fun r hr ↦ ?_⟩
          exact Nat.lt_of_lt_of_le (hy r hr) hac
        exact ih hle hrs (List.forall_mem_cons.2 ⟨hcd, List.forall_mem_cons.2 ⟨hab, hdone⟩⟩)
          (List.pairwise_cons.2 ⟨hnew, List.pairwise_cons.2 ⟨hy, hapart⟩⟩) (le_of_mem_head? hx)

theorem scalar_joined (hrs : ∀ r ∈ rs, Scalar r) (hdone : ∀ r ∈ done, Scalar r) :
    ∀ r ∈ joined done rs, Scalar r := by
  induction rs generalizing done with
  | nil =>
    rw [joined]
    exact fun r hr ↦ hdone r (List.mem_reverse.1 hr)
  | cons x rs ih =>
    obtain ⟨c, d⟩ := x
    obtain ⟨hx, hrs⟩ := List.forall_mem_cons.1 hrs
    cases done with
    | nil =>
      rw [joined]
      exact ih hrs (List.forall_mem_singleton.2 hx)
    | cons y done =>
      obtain ⟨a, b⟩ := y
      obtain ⟨hy, hdone⟩ := List.forall_mem_cons.1 hdone
      rw [joined]
      split
      · -- no range that ends before the surrogates touches one behind them
        refine ih hrs (List.forall_mem_cons.2 ⟨?_, hdone⟩)
        simp only [Scalar] at hx hy ⊢
        omega
      · exact ih hrs (List.forall_mem_cons.2 ⟨hx, List.forall_mem_cons.2 ⟨hy, hdone⟩⟩)

def ofRanges (rs : List (Nat × Nat)) : CharSet where
  ranges := joined [] ((rs.flatMap scalars).foldr placed [])
  ascending := by
    refine ascending_joined (fun r hr ↦ ?_) (pairwise_foldr_placed _) (by simp) .nil (by simp)
    obtain ⟨x, -, hx⟩ := List.mem_flatMap.1 (mem_foldr_placed.1 hr)
    exact le_of_mem_scalars hx
  scalar := by
    refine scalar_joined (fun r hr ↦ ?_) nofun
    obtain ⟨x, -, hx⟩ := List.mem_flatMap.1 (mem_foldr_placed.1 hr)
    exact scalar_of_mem_scalars hx

def empty : CharSet where
  ranges := []
  ascending := ⟨nofun, .nil⟩
  scalar := nofun

def any : CharSet := ofRanges [(0, 0x10ffff)]

def ascii : CharSet := ofRanges [(0, 0x7f)]

def one (c : Char) : CharSet := ofRanges [(c.toNat, c.toNat)]

def range (first last : Char) : CharSet := ofRanges [(first.toNat, last.toNat)]

def gaps (start : Nat) : List (Nat × Nat) → List (Nat × Nat)
  | [] => [(start, 0x10ffff)]
  | (first, last) :: rs =>
    if start < first then (start, first - 1) :: gaps (last + 1) rs else gaps (last + 1) rs

def compl (s : CharSet) : CharSet := ofRanges (gaps 0 s.ranges)

def union (s t : CharSet) : CharSet := ofRanges (s.ranges ++ t.ranges)

def inter (s t : CharSet) : CharSet := compl (union (compl s) (compl t))

def diff (s t : CharSet) : CharSet := inter s (compl t)

def symmDiff (s t : CharSet) : CharSet := union (diff s t) (diff t s)

def unions (ss : List CharSet) : CharSet := ofRanges (ss.flatMap ranges)

def isAscii (s : CharSet) : Bool := s.ranges.all fun (_, last) ↦ last < 0x80

def only? (s : CharSet) : Option Char :=
  match s.ranges with
  | [(first, last)] => if first = last then some (Char.ofNat first) else none
  | _ => none

end CharSet

end LiteralPatch
