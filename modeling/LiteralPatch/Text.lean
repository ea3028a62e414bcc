namespace LiteralPatch

/-- A line feed ends a line; no other character does. -/
abbrev Text := List Char

namespace Text

def strip? : Text → Text → Option Text
  | [], s => some s
  | c :: p, d :: s => if c = d then strip? p s else none
  | _ :: _, [] => none

theorem strip?_eq_some_iff {p s r : Text} : strip? p s = some r ↔ s = p ++ r := by
  fun_induction strip? p s with
  | case1 s => simp [eq_comm]
  | case2 p d s ih => simp [ih]
  | case3 c p d s h => simp [Ne.symm h]
  | case4 c p => simp

def line (s : Text) : Text := s.takeWhile (· != '\n')

def afterLine (s : Text) : Text := s.dropWhile (· != '\n')

theorem line_append_afterLine (s : Text) : line s ++ afterLine s = s :=
  List.takeWhile_append_dropWhile

def throughFirst (c : Char) : Text → Option (Text × Text)
  | [] => none
  | d :: s =>
    if d = c then some ([d], s) else (throughFirst c s).map fun (a, b) ↦ (d :: a, b)

theorem throughFirst_append {c : Char} {s a b : Text} (h : throughFirst c s = some (a, b)) :
    a ++ b = s := by
  induction s generalizing a with
  | nil => simp [throughFirst] at h
  | cons d s ih =>
    rw [throughFirst] at h
    split at h
    · obtain ⟨rfl, rfl⟩ := Prod.mk.inj (Option.some.inj h)
      simp
    · obtain ⟨⟨x, y⟩, hx, he⟩ := Option.map_eq_some_iff.1 h
      simp only [Prod.mk.injEq] at he
      obtain ⟨rfl, rfl⟩ := he
      simp [ih hx]

def throughLast (c : Char) : Text → Option (Text × Text)
  | [] => none
  | d :: s =>
    match throughLast c s with
    | some (a, b) => some (d :: a, b)
    | none => if d = c then some ([d], s) else none

theorem throughLast_append {c : Char} {s a b : Text} (h : throughLast c s = some (a, b)) :
    a ++ b = s := by
  induction s generalizing a b with
  | nil => simp [throughLast] at h
  | cons d s ih =>
    rw [throughLast] at h
    split at h
    · next x y hx =>
      obtain ⟨rfl, rfl⟩ := Prod.mk.inj (Option.some.inj h)
      simp [ih hx]
    · split at h
      · obtain ⟨rfl, rfl⟩ := Prod.mk.inj (Option.some.inj h)
        simp
      · simp at h

end Text

end LiteralPatch
