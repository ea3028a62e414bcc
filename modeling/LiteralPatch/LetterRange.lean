import LiteralPatch.Scan

namespace LiteralPatch

namespace LetterRange

def spellings : List Text := ["a-zA-Z".toList, "A-Za-z".toList]

def read? (s : Text) : Option (Text × Text) :=
  spellings.findSome? fun p ↦ (Text.strip? p s).map fun r ↦ (p, r)

theorem read?_append {s a r : Text} (h : read? s = some (a, r)) : a ++ r = s := by
  obtain ⟨p, -, hp⟩ := List.exists_of_findSome?_eq_some h
  obtain ⟨x, hx, he⟩ := Option.map_eq_some_iff.1 hp
  obtain ⟨rfl, rfl⟩ := Prod.mk.inj he
  exact (Text.strip?_eq_some_iff.1 hx).symm

structure Cut where
  before : Text
  range : Text
  after : Text
  deriving DecidableEq, Repr

def Cut.spell (k : Cut) : Text := k.before ++ k.range ++ k.after

/-- Cuts at the last letter range that has a `q` behind it, and takes all through the last `q`. -/
def last? (q : Char) : Text → Option (Cut × Text)
  | [] => none
  | c :: s =>
    match last? q s with
    | some (k, r) => some ({ k with before := c :: k.before }, r)
    | none => (read? (c :: s)).bind fun (range, t) ↦
      (Text.throughLast q t).map fun (after, r) ↦ (⟨[], range, after⟩, r)

theorem last?_append {q : Char} {s r : Text} {k : Cut} (h : last? q s = some (k, r)) :
    k.spell ++ r = s := by
  induction s generalizing k r with
  | nil => simp [last?] at h
  | cons c s ih =>
    rw [last?] at h
    split at h
    · next k' r' h' =>
      obtain ⟨rfl, rfl⟩ := Prod.mk.inj (Option.some.inj h)
      simpa [Cut.spell] using ih h'
    · obtain ⟨⟨range, t⟩, hr, ht⟩ := Option.bind_eq_some_iff.1 h
      obtain ⟨⟨x, y⟩, hx, he⟩ := Option.map_eq_some_iff.1 ht
      obtain ⟨rfl, rfl⟩ := Prod.mk.inj he
      simp [Cut.spell, Text.throughLast_append hx, read?_append hr]

def quoted? (q : Char) : Text → Option (Cut × Text)
  | [] => none
  | c :: s =>
    if c = q then
      (last? q (Text.line s)).map fun (k, r) ↦
        ({ k with before := q :: k.before }, r ++ Text.afterLine s)
    else none

theorem quoted?_append {q : Char} {s r : Text} {k : Cut} (h : quoted? q s = some (k, r)) :
    k.spell ++ r = s := by
  cases s with
  | nil => simp [quoted?] at h
  | cons c s =>
    rw [quoted?] at h
    split at h
    · next hc =>
      obtain ⟨⟨k', r'⟩, hk, he⟩ := Option.map_eq_some_iff.1 h
      obtain ⟨rfl, rfl⟩ := Prod.mk.inj he
      have hl := congrArg (· ++ Text.afterLine s) (last?_append hk)
      simp only [Text.line_append_afterLine] at hl
      rw [hc]
      exact congrArg (q :: ·) (by simpa [Cut.spell] using hl)
    · simp at h

def matcher (q : Char) : Matcher Cut where
  run := quoted? q
  spell := Cut.spell
  spell_append := quoted?_append
  spell_ne_nil {s k r} h := by
    cases s with
    | nil => simp [quoted?] at h
    | cons c s =>
      rw [quoted?] at h
      split at h
      · obtain ⟨⟨k', r'⟩, -, he⟩ := Option.map_eq_some_iff.1 h
        obtain ⟨rfl, -⟩ := Prod.mk.inj he
        simp [Cut.spell]
      · simp at h

end LetterRange

end LiteralPatch
