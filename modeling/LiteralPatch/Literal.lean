import LiteralPatch.Scan

namespace LiteralPatch

namespace Literal

def close? (q : Char) : Text → Option (Text × Text)
  | [] => none
  | '\\' :: [] => none
  | '\\' :: c :: s =>
    if c = '\n' then none else (close? q s).map fun (b, r) ↦ ('\\' :: c :: b, r)
  | c :: s =>
    if c = q then some ([q], s)
    else if c = '\n' then none
    else (close? q s).map fun (b, r) ↦ (c :: b, r)

theorem close?_append {q : Char} {s b r : Text} (h : close? q s = some (b, r)) : b ++ r = s := by
  fun_induction close? q s generalizing b r with
  | case1 => simp at h
  | case2 => simp at h
  | case3 => simp at h
  | case4 c s _ ih =>
    obtain ⟨⟨x, y⟩, hx, he⟩ := Option.map_eq_some_iff.1 h
    obtain ⟨rfl, rfl⟩ := Prod.mk.inj he
    simp [ih hx]
  | case5 s =>
    obtain ⟨rfl, rfl⟩ := Prod.mk.inj (Option.some.inj h)
    rfl
  | case6 => simp at h
  | case7 c s _ _ _ _ ih =>
    obtain ⟨⟨x, y⟩, hx, he⟩ := Option.map_eq_some_iff.1 h
    obtain ⟨rfl, rfl⟩ := Prod.mk.inj he
    simp [ih hx]

def read? (q : Char) : Text → Option (Text × Text)
  | [] => none
  | c :: s => if c = q then (close? q s).map fun (b, r) ↦ (q :: b, r) else none

theorem read?_eq_some {q : Char} {s a r : Text} (h : read? q s = some (a, r)) :
    ∃ b, a = q :: b ∧ s = q :: (b ++ r) := by
  cases s with
  | nil => simp [read?] at h
  | cons c s =>
    rw [read?] at h
    split at h
    · next hc =>
      obtain ⟨⟨x, y⟩, hx, he⟩ := Option.map_eq_some_iff.1 h
      obtain ⟨rfl, rfl⟩ := Prod.mk.inj he
      exact ⟨x, rfl, by rw [hc, close?_append hx]⟩
    · simp at h

def matcher (q : Char) : Matcher Text where
  run := read? q
  spell := id
  spell_append h := by
    obtain ⟨b, rfl, rfl⟩ := read?_eq_some h
    rfl
  spell_ne_nil h := by
    obtain ⟨b, rfl, -⟩ := read?_eq_some h
    simp

structure LetterCut where
  before : Text
  letter : Char
  after : Text
  deriving DecidableEq, Repr

def cutAtLetter? (taken : Bool) : Text → Option LetterCut
  | [] => none
  | c :: s =>
    if !taken && c.isAlpha then some ⟨[], c, s⟩
    else (cutAtLetter? (!taken && c == '\\') s).map fun k ↦ { k with before := c :: k.before }

/-- Cuts a literal at its first letter outside an escape. The first character is the opening quote
and never the letter, whatever it is. -/
def split? : Text → Option LetterCut
  | [] => none
  | c :: s => (cutAtLetter? false s).map fun k ↦ { k with before := c :: k.before }

end Literal

end LiteralPatch
