import LiteralPatch.Pattern.Size

namespace LiteralPatch

/-- A result has a property, if there is a result. -/
def Yields {α : Type} (x : Option α) (P : α → Prop) : Prop := ∀ a, x = some a → P a

namespace Yields

variable {α β : Type} {x : Option α} {f : α → Option β} {P : α → Prop} {Q : β → Prop} {a : α}

theorem some (h : P a) : Yields (some a) P := fun _ ha ↦ Option.some.inj ha ▸ h

theorem none : Yields none P := nofun

theorem bind (h : Yields x P) (hf : ∀ a, P a → Yields (f a) Q) : Yields (x >>= f) Q := by
  intro b hb
  obtain ⟨a, ha, hb⟩ := Option.bind_eq_some_iff.1 hb
  exact hf a (h a ha) b hb

theorem foldlM {l : List β} {step : α → β → Option α} (h : ∀ a, P a → ∀ b, Yields (step a b) P)
    (ha : P a) : Yields (l.foldlM step a) P := by
  induction l generalizing a with
  | nil => exact some ha
  | cons b l ih =>
    rw [List.foldlM_cons]
    exact (h a ha b).bind fun a ha ↦ ih ha

end Yields

namespace Machine

/-- A machine that is built on another one is not smaller, and keeps to the limit as that one
does. -/
structure Grows (m m' : Machine) : Prop where
  states_le : m.states ≤ m'.states
  room_le : m.room ≤ m'.room
  keeps_limit : m.room ≤ sizeLimit → m'.room ≤ sizeLimit

def Adds (step : Machine → Option Machine) : Prop :=
  ∀ ⦃m m'⦄, Grows m m' → Yields (step m') (Grows m)

variable {m m' m'' : Machine} {step step' : Machine → Option Machine}

theorem Grows.refl (m : Machine) : Grows m m := ⟨Nat.le_refl _, Nat.le_refl _, id⟩

theorem Grows.endInFork (h : Grows m m') (b : Bool) : Grows m { m' with endsInFork := b } :=
  ⟨h.states_le, h.room_le, h.keeps_limit⟩

theorem adds_grow (room : Nat) : Adds (grow room) := by
  intro m m' h
  rw [grow]
  split
  · exact .none
  · next hle =>
    exact .some ⟨h.states_le, Nat.le_add_right_of_le h.room_le, fun _ ↦ Nat.le_of_not_lt hle⟩

theorem adds_addStates (n room : Nat) : Adds (addStates n room) := fun _ _ h ↦
  (adds_grow _ h).bind fun _ h ↦
    .some ⟨Nat.le_add_right_of_le h.states_le, h.room_le, h.keeps_limit⟩

theorem adds_addState : Adds addState := adds_addStates 1 0

theorem adds_addTransitions (n : Nat) : Adds (addTransitions n) := adds_addStates 1 (8 * n)

theorem adds_addWays (n : Nat) : Adds (addWays n) := adds_grow (4 * n)

theorem adds_leadOn (earlier : Machine) : Adds earlier.leadOn := by
  intro m m' h
  rw [leadOn]
  split
  · exact adds_addWays 1 h
  · exact .some h

theorem adds_closeBranch (before : Nat) : Adds (closeBranch before) := by
  intro m m' h
  unfold closeBranch
  dsimp only
  split
  · refine (adds_addStates 2 0 h).bind fun _ h ↦ (adds_addWays 1 h).bind fun _ h ↦ ?_
    exact adds_leadOn m' h
  · exact (Yields.some h).bind fun _ h ↦ (adds_addWays 1 h).bind fun _ h ↦ adds_leadOn m' h

namespace Adds

theorem again (hstep : Adds step) (n : Nat) : Adds (again step n) := by
  induction n with
  | zero => exact fun _ _ h ↦ .some h
  | succ n ih =>
    exact fun m m' h ↦ (hstep h).bind fun _ h ↦ (adds_leadOn m' h).bind fun _ h ↦ ih h

theorem exactly (hstep : Adds step) (n : Nat) : Adds (exactly step n) := by
  cases n with
  | zero => exact adds_addState
  | succ n => exact fun _ _ h ↦ (hstep h).bind fun _ h ↦ hstep.again n h

theorem optional (hstep : Adds step) : Adds (optional step) := fun _ _ h ↦
  (adds_addState h).bind fun _ h ↦ (hstep h).bind fun _ h ↦ adds_addWays 2 h

theorem atLeast (hstep : Adds step) (moves : Bool) (n : Nat) : Adds (atLeast step moves n) := by
  intro m m' h
  unfold Machine.atLeast
  split
  · split
    · refine (adds_addState h).bind fun _ h ↦ (hstep h).bind fun body h ↦ ?_
      exact (adds_addWays 1 h).bind fun _ h ↦ (adds_leadOn body h).bind fun _ h ↦
        .some (h.endInFork true)
    · refine (hstep h).bind fun body h ↦ (adds_addStates 3 0 h).bind fun _ h ↦ ?_
      exact (adds_addWays 4 h).bind fun _ h ↦ adds_leadOn body h
  · refine (hstep h).bind fun body h ↦ (adds_addState h).bind fun _ h ↦ ?_
    exact (adds_addWays 1 h).bind fun _ h ↦ (adds_leadOn body h).bind fun _ h ↦
      .some (h.endInFork true)
  · next n =>
    refine (hstep.exactly (n + 1) h).bind fun start h ↦ (hstep h).bind fun body h ↦ ?_
    refine (adds_addState h).bind fun _ h ↦ (adds_addWays 1 h).bind fun _ h ↦ ?_
    exact (adds_leadOn body h).bind fun _ h ↦ (adds_leadOn start h).bind fun _ h ↦
      .some (h.endInFork true)

theorem between (hstep : Adds step) (least more : Nat) : Adds (between step least more) := by
  intro m m' h
  unfold Machine.between
  refine (hstep.exactly least h).bind fun start h ↦ (adds_addState h).bind fun _ h ↦ ?_
  refine (hstep.optional.again more (h.endInFork start.endsInFork)).bind fun built h ↦ ?_
  exact (adds_leadOn built h).bind fun _ h ↦ .some (h.endInFork false)

end Adds

namespace SetStates

variable {b : SetStates}

theorem yields_find (transitions : List Transition) (h : Grows m b.machine) :
    Yields (b.find transitions) fun found ↦ Grows m found.2.machine := by
  unfold find
  dsimp only
  split
  · exact .some h
  · exact (adds_addTransitions _ h).bind fun _ h ↦ .some h

theorem yields_closeChain (final : Nat) (chain : List OpenState) (h : Grows m b.machine) :
    Yields (b.closeChain final chain) fun closed ↦ Grows m closed.2.machine := by
  induction chain with
  | nil => exact .some h
  | cons s chain ih => exact ih.bind fun _ h ↦ yields_find _ h

theorem yields_addSequence (final : Nat) (chain : List OpenState) (sequence : List ByteRange)
    (h : Grows m b.machine) :
    Yields (b.addSequence final chain sequence) fun added ↦ Grows m added.2.machine := by
  unfold addSequence
  refine (yields_closeChain final _ h).bind fun (target, b) h ↦ ?_
  dsimp only
  split <;> exact .some h

end SetStates

theorem adds_addSet (sequences : List (List ByteRange)) : Adds (addSet sequences) := by
  intro m m' h
  unfold addSet
  refine (adds_addState h).bind fun _ h ↦ ?_
  refine Yields.bind (P := fun s : List OpenState × SetStates ↦ Grows m s.2.machine)
    (Yields.foldlM (fun s hs sequence ↦ SetStates.yields_addSequence _ s.1 sequence hs) h)
    fun _ h ↦ ?_
  exact (SetStates.yields_closeChain _ _ h).bind fun _ h ↦ .some h

theorem yields_addBackwards (sequence : List ByteRange) (target : Nat)
    {known : Std.HashMap Nat (Nat × ByteRange × Nat)} (h : Grows m m') :
    Yields (addBackwards sequence target (m', known)) fun added ↦ Grows m added.1 := by
  induction sequence generalizing target m' known with
  | nil => exact (adds_addWays 1 h).bind fun _ h ↦ .some h
  | cons r sequence ih =>
    unfold addBackwards
    dsimp only
    split
    · exact ih _ h
    · exact (adds_addState h).bind fun _ h ↦ ih _ h

theorem adds_addSetBackwards (sequences : List (List ByteRange)) :
    Adds (addSetBackwards sequences) := by
  intro m m' h
  unfold addSetBackwards
  refine (adds_addStates 2 0 h).bind fun _ h ↦ ?_
  refine Yields.bind (P := fun s : Machine × Std.HashMap Nat (Nat × ByteRange × Nat) ↦ Grows m s.1)
    (Yields.foldlM (fun s hs sequence ↦ yields_addBackwards sequence _ hs) h) fun _ h ↦ .some h

theorem adds_addWords (words : List Bytes) : Adds (addWords words) := adds_addStates _ _

end Machine

namespace Pattern

open Machine

theorem adds_build (backwards : Bool) (p : Pattern) (before : Nat) :
    Adds (p.build backwards before) := by
  induction p generalizing before with
  | empty => exact adds_addState
  | assertion a => exact adds_addState
  | literal s => exact adds_addStates _ 0
  | one s =>
    intro m m' h
    unfold build
    split
    · exact (adds_addState h).bind fun _ h ↦ adds_addTransitions _ h
    · split
      · exact adds_addSetBackwards _ h
      · exact adds_addSet _ h
  | group n p ih =>
    intro m m' h
    unfold build
    split
    · exact ih 0 h
    · refine (adds_addState h).bind fun _ h ↦ (ih 0 h).bind fun body h ↦ ?_
      exact (adds_addState h).bind fun _ h ↦ adds_leadOn body h
  | seq p q ihp ihq =>
    intro m m' h
    unfold build
    split
    · exact (ihq 0 h).bind fun start h ↦ (ihp 0 h).bind fun _ h ↦ adds_leadOn start h
    · exact (ihp 0 h).bind fun start h ↦ (ihq 0 h).bind fun _ h ↦ adds_leadOn start h
  | alt p q ihp ihq =>
    intro m m' h
    unfold build
    dsimp only
    split
    · exact adds_addWords _ h
    · refine (ihp 0 h).bind fun _ h ↦ (adds_closeBranch before h).bind fun _ h ↦ ?_
      split
      · exact (ihq (before + 1) h).bind fun _ h ↦ .some (h.endInFork false)
      · refine (ihq 0 h).bind fun _ h ↦ (adds_closeBranch (before + 1) h).bind fun _ h ↦ ?_
        exact .some (h.endInFork false)
  | times p least most isLazy ih =>
    intro m m' h
    cases most with
    | none => exact (ih 0).atLeast _ least h
    | some most =>
      unfold build
      split
      · refine ((ih 0).optional h).bind fun body h ↦ ?_
        exact (adds_addState h).bind fun _ h ↦ adds_leadOn body h
      · split
        · exact (ih 0).exactly least h
        · exact (ih 0).between least _ h

theorem yields_closed (backwards : Bool) (p : Pattern) {m : Machine} (h : Grows {} m) :
    Yields (do
      let body ← build backwards p 0 m
      m.leadOn (← body.leadOn (← body.addState))) (Grows {}) := by
  refine (adds_build backwards p 0 h).bind fun body h ↦ (adds_addState h).bind fun _ h ↦ ?_
  exact (adds_leadOn body h).bind fun _ h ↦ adds_leadOn m h

theorem yields_machine (backwards : Bool) (p : Pattern) :
    Yields (p.machine backwards) (Grows {}) := by
  have hempty := Grows.refl {}
  unfold machine
  dsimp only
  generalize (if backwards = true then p.isAtEnd else p.isAtStart) = isAnchored
  split
  · exact (adds_addState hempty).bind fun _ h ↦ yields_closed backwards _ h
  · refine (adds_addStates 2 0 hempty).bind fun _ h ↦ (adds_addTransitions 1 h).bind fun _ h ↦ ?_
    refine (adds_addWays 1 h).bind fun _ h ↦ (Yields.some (h.endInFork true)).bind fun _ h ↦ ?_
    exact yields_closed backwards _ h

/-- A pattern that is not too large has machines within the limit in both directions. -/
theorem isTooLarge_eq_false_iff {p : Pattern} : p.isTooLarge = false ↔
    ∀ backwards, ∃ m, p.machine backwards = some m ∧ m.room ≤ sizeLimit := by
  have hroom (backwards : Bool) (m : Machine) (h : p.machine backwards = some m) :
      m.room ≤ sizeLimit := (yields_machine backwards p m h).keeps_limit (Nat.zero_le _)
  rw [isTooLarge, Bool.or_eq_false_iff, Option.isNone_eq_false_iff, Option.isNone_eq_false_iff,
    Option.isSome_iff_exists, Option.isSome_iff_exists]
  constructor
  · rintro ⟨⟨m, hm⟩, ⟨m', hm'⟩⟩ (_ | _)
    · exact ⟨m, hm, hroom false m hm⟩
    · exact ⟨m', hm', hroom true m' hm'⟩
  · intro h
    obtain ⟨m, hm, -⟩ := h false
    obtain ⟨m', hm', -⟩ := h true
    exact ⟨⟨m, hm⟩, ⟨m', hm'⟩⟩

end Pattern

end LiteralPatch
