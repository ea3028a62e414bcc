import LiteralPatch.Escape
import LiteralPatch.Literal

namespace LiteralPatch

namespace Literal

theorem ne_of_isAlpha {c d : Char} (hc : c.isAlpha = true) (hd : d.isAlpha = false) : c ≠ d := by
  rintro rfl
  rw [hd] at hc
  exact Bool.false_ne_true hc

theorem backslash_not_alpha : Char.isAlpha '\\' = false := by decide

theorem newline_not_alpha : Char.isAlpha '\n' = false := by decide

inductive Units (B T : Char → Prop) : Text → Prop
  | nil : Units B T []
  | bare {c : Char} {b : Text} : B c → c ≠ '\\' → Units B T b → Units B T (c :: b)
  | taken {c : Char} {b : Text} : T c → Units B T b → Units B T ('\\' :: c :: b)

namespace Units

variable {B B' T T' : Char → Prop} {a b : Text}

theorem append (ha : Units B T a) (hb : Units B T b) : Units B T (a ++ b) := by
  induction ha with
  | nil => exact hb
  | bare hc hn _ ih => exact .bare hc hn ih
  | taken hc _ ih => exact .taken hc ih

theorem mono (hB : ∀ c, B c → B' c) (hT : ∀ c, T c → T' c) (h : Units B T b) : Units B' T' b := by
  induction h with
  | nil => exact .nil
  | bare hc hn _ ih => exact .bare (hB _ hc) hn ih
  | taken hc _ ih => exact .taken (hT _ hc) ih

theorem of_forall (h : ∀ c ∈ b, B c ∧ c ≠ '\\') : Units B T b := by
  induction b with
  | nil => exact .nil
  | cons c b ih =>
    rw [List.forall_mem_cons] at h
    exact .bare h.1.1 h.1.2 (ih h.2)

theorem single {c : Char} (hc : B c) (hn : c ≠ '\\') : Units B T [c] := .bare hc hn .nil

end Units

variable {q : Quote}

def Body (q : Quote) : Text → Prop :=
  Units (fun c ↦ c ≠ q.mark ∧ c ≠ '\n') (· ≠ '\n')

def Letterless (q : Quote) : Text → Prop :=
  Units (fun c ↦ c ≠ q.mark ∧ c ≠ '\n' ∧ c.isAlpha = false) (· ≠ '\n')

def Inline (q : Quote) : Text → Prop :=
  Units (· ≠ '\n') (fun c ↦ c ≠ '\n' ∧ c ≠ q.mark)

theorem Letterless.body {b : Text} (h : Letterless q b) : Body q b :=
  Units.mono (fun _ hc ↦ ⟨hc.1, hc.2.1⟩) (fun _ hc ↦ hc) h

theorem close?_mark (s : Text) : close? q.mark (q.mark :: s) = some ([q.mark], s) := by
  cases q <;> simp [close?, Quote.mark]

theorem close?_bare {c : Char} (s : Text) (hc : c ≠ q.mark ∧ c ≠ '\n') (hn : c ≠ '\\') :
    close? q.mark (c :: s) = (close? q.mark s).map fun p ↦ (c :: p.1, p.2) := by
  rw [close?.eq_def]
  split
  · next h => simp at h
  · next h => exact absurd (List.cons.inj h).1 hn
  · next h => exact absurd (List.cons.inj h).1 hn
  · next h =>
    obtain ⟨rfl, rfl⟩ := List.cons.inj h
    rw [if_neg hc.1, if_neg hc.2]

theorem close?_taken {c : Char} (s : Text) (hc : c ≠ '\n') :
    close? q.mark ('\\' :: c :: s) = (close? q.mark s).map fun p ↦ ('\\' :: c :: p.1, p.2) := by
  rw [close?, if_neg hc]

theorem Body.close?_append {b : Text} (hb : Body q b) (s : Text) :
    close? q.mark (b ++ s) = (close? q.mark s).map fun p ↦ (b ++ p.1, p.2) := by
  induction hb with
  | nil => simp
  | bare hc hn _ ih =>
    rw [List.cons_append, close?_bare _ hc hn, ih, Option.map_map]
    rfl
  | taken hc _ ih =>
    rw [List.cons_append, List.cons_append, close?_taken _ hc, ih, Option.map_map]
    rfl

theorem Body.close?_mark {b : Text} (hb : Body q b) (s : Text) :
    close? q.mark (b ++ q.mark :: s) = some (b ++ [q.mark], s) := by
  rw [hb.close?_append, Literal.close?_mark]
  rfl

theorem ne_backslash_of_forall {c : Char} {s : Text} (hnil : c = '\\' → s = [] → False)
    (hcons : ∀ d t, c = '\\' → s = d :: t → False) : c ≠ '\\' := by
  intro hc
  cases s with
  | nil => exact hnil hc rfl
  | cons d t => exact hcons d t hc rfl

theorem exists_body_of_close? {s b r : Text} (h : close? q.mark s = some (b, r)) :
    ∃ a, Body q a ∧ b = a ++ [q.mark] ∧ s = a ++ q.mark :: r := by
  fun_induction close? q.mark s generalizing b r with
  | case1 => simp at h
  | case2 => simp at h
  | case3 => simp at h
  | case4 c s hc ih =>
    obtain ⟨⟨x, y⟩, hx, he⟩ := Option.map_eq_some_iff.1 h
    obtain ⟨rfl, rfl⟩ := Prod.mk.inj he
    obtain ⟨a, ha, rfl, rfl⟩ := ih hx
    exact ⟨_, .taken hc ha, rfl, rfl⟩
  | case5 s =>
    obtain ⟨rfl, rfl⟩ := Prod.mk.inj (Option.some.inj h)
    exact ⟨[], .nil, rfl, rfl⟩
  | case6 => simp at h
  | case7 c s hn hn' hq hl ih =>
    have hc : c ≠ '\\' := ne_backslash_of_forall hn hn'
    obtain ⟨⟨x, y⟩, hx, he⟩ := Option.map_eq_some_iff.1 h
    obtain ⟨rfl, rfl⟩ := Prod.mk.inj he
    obtain ⟨a, ha, rfl, rfl⟩ := ih hx
    exact ⟨_, .bare ⟨hq, hl⟩ hc ha, rfl, rfl⟩

/-- The reader takes exactly the literals: a body between two quotes. -/
theorem read?_eq_some_iff {s a r : Text} :
    read? q.mark s = some (a, r) ↔
      ∃ b, Body q b ∧ a = q.mark :: b ++ [q.mark] ∧ s = a ++ r := by
  constructor
  · intro h
    cases s with
    | nil => simp [read?] at h
    | cons c s =>
      rw [read?] at h
      split at h
      · next hc =>
        obtain ⟨⟨x, y⟩, hx, he⟩ := Option.map_eq_some_iff.1 h
        obtain ⟨rfl, rfl⟩ := Prod.mk.inj he
        obtain ⟨b, hb, rfl, rfl⟩ := exists_body_of_close? hx
        exact ⟨b, hb, rfl, by simp [hc]⟩
      · simp at h
  · rintro ⟨b, hb, rfl, rfl⟩
    simp [read?, hb.close?_mark]

theorem Body.letterless_or_exists {b : Text} (hb : Body q b) :
    Letterless q b ∨
      ∃ x c y, b = x ++ c :: y ∧ Letterless q x ∧ c.isAlpha = true ∧ Body q y := by
  induction hb with
  | nil => exact .inl .nil
  | @bare c b hc hn hb ih =>
    by_cases hl : c.isAlpha = true
    · exact .inr ⟨[], c, b, rfl, .nil, hl, hb⟩
    · have hc' : c ≠ q.mark ∧ c ≠ '\n' ∧ c.isAlpha = false := ⟨hc.1, hc.2, by simpa using hl⟩
      rcases ih with h | ⟨x, d, y, rfl, hx, hd, hy⟩
      · exact .inl (.bare hc' hn h)
      · exact .inr ⟨c :: x, d, y, rfl, .bare hc' hn hx, hd, hy⟩
  | @taken c b hc hb ih =>
    rcases ih with h | ⟨x, d, y, rfl, hx, hd, hy⟩
    · exact .inl (.taken hc h)
    · exact .inr ⟨'\\' :: c :: x, d, y, rfl, .taken hc hx, hd, hy⟩

theorem Letterless.cutAtLetter?_append {b : Text} (hb : Letterless q b) (s : Text) :
    cutAtLetter? false (b ++ s) =
      (cutAtLetter? false s).map fun k ↦ { k with before := b ++ k.before } := by
  induction hb with
  | nil => simp
  | bare hc hn _ ih =>
    have hn' : (!false && _ == '\\') = false := beq_eq_false_iff_ne.2 hn
    rw [List.cons_append, cutAtLetter?, hn']
    simp [hc.2.2, ih, Function.comp_def]
  | taken _ _ ih =>
    rw [List.cons_append, List.cons_append, cutAtLetter?, cutAtLetter?]
    simp [ih, Function.comp_def, backslash_not_alpha]

theorem Letterless.split?_eq_none {b : Text} (hb : Letterless q b) :
    split? (q.mark :: b ++ [q.mark]) = none := by
  simp [split?, hb.cutAtLetter?_append, cutAtLetter?, q.mark_not_alpha]

theorem Letterless.split?_letter {b y : Text} {c : Char} (hb : Letterless q b)
    (hc : c.isAlpha = true) : split? (q.mark :: b ++ c :: y) = some ⟨q.mark :: b, c, y⟩ := by
  simp [split?, hb.cutAtLetter?_append, cutAtLetter?, hc]

end Literal

end LiteralPatch
