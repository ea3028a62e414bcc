import LiteralPatch.Pattern.Program
import LiteralPatch.Proofs.Pattern.Takes

namespace LiteralPatch

open Cursor

namespace PatternStep

def free (before after : Option Char) : PatternStep → List Nat
  | check a next => if a.holds before after then [next] else []
  | fork next other => [next, other]
  | _ => []

def taken (after : Option Char) : PatternStep → List Nat
  | takeChar c next => if after = some c then [next] else []
  | takeOne s next => if after.any s.mem then [next] else []
  | _ => []

inductive Moves (step : PatternStep) (k : Cursor) : Nat → Cursor → Prop
  | free {j : Nat} (h : j ∈ step.free k.before k.rest.head?) : Moves step k j k
  | taken {j : Nat} {c : Char} {s : Text} (hk : k.rest = c :: s) (h : j ∈ step.taken (some c)) :
      Moves step k j ⟨some c, s⟩

end PatternStep

namespace PatternProgram

inductive Ends (steps : Array PatternStep) : Nat → Nat → Cursor → Prop
  | done {i : Nat} {k : Cursor} (h : steps[i]? = some .done) : Ends steps 0 i k
  | move {n i j : Nat} {step : PatternStep} {k k' : Cursor} (h : steps[i]? = some step)
      (hm : step.Moves k j k') (he : Ends steps n j k') : Ends steps (n + 1) i k

/-- From step `i` on the steps do what `R` tells, and then are at step `j`. A way to the end does
not get longer, so that what leads through itself can be followed. -/
structure Does (steps : Array PatternStep) (i j : Nat) (R : Cursor → Cursor → Prop) : Prop where
  sound {n : Nat} {k : Cursor} : Ends steps n i k → ∃ m ≤ n, ∃ k', R k k' ∧ Ends steps m j k'
  complete {m : Nat} {k k' : Cursor} : R k k' → Ends steps m j k' → ∃ n, Ends steps n i k

variable {steps : Array PatternStep} {i j l : Nat} {R S : Cursor → Cursor → Prop}

theorem Does.refl (steps : Array PatternStep) (i : Nat) : Does steps i i Eq where
  sound {n k} h := ⟨n, Nat.le_refl n, k, rfl, h⟩
  complete {m _ _} h he := ⟨m, h ▸ he⟩

theorem Does.comp (h : Does steps i j R) (h' : Does steps j l S) :
    Does steps i l (Relation.Comp R S) where
  sound he := by
    obtain ⟨m, hm, k, hr, he⟩ := h.sound he
    obtain ⟨m', hm', k', hs, he⟩ := h'.sound he
    exact ⟨m', Nat.le_trans hm' hm, k', ⟨k, hr, hs⟩, he⟩
  complete := by
    rintro m k k' ⟨x, hr, hs⟩ he
    obtain ⟨n, he⟩ := h'.complete hs he
    exact h.complete hr he

theorem Does.of_moves {step : PatternStep} (h : steps[i]? = some step) (hd : step ≠ .done)
    (hm : ∀ k l k', step.Moves k l k' ↔ l = j ∧ R k k') : Does steps i j R where
  sound {_ k} he := by
    cases he with
    | done h' => exact absurd (Option.some.inj (h.symm.trans h')) hd
    | @move n _ l _ _ k' h' hm' he =>
      obtain rfl := Option.some.inj (h.symm.trans h')
      obtain ⟨rfl, hr⟩ := (hm k l k').1 hm'
      exact ⟨n, Nat.le_succ n, k', hr, he⟩
  complete {m k k'} hr he := ⟨m + 1, .move h ((hm k j k').2 ⟨rfl, hr⟩) he⟩

theorem Does.takeChar {c : Char} (h : steps[i]? = some (.takeChar c j)) :
    Does steps i j (Passes (· = c)) := by
  refine .of_moves h nofun fun k l k' ↦ ⟨fun hm ↦ ?_, ?_⟩
  · cases hm with
    | free h => cases h
    | taken hk h =>
      rw [PatternStep.taken] at h
      split at h
      · next hc =>
        exact ⟨List.mem_singleton.1 h, _, Option.some.inj hc, hk, rfl⟩
      · cases h
  · rintro ⟨rfl, d, rfl, hk, hb⟩
    obtain ⟨b, r⟩ := k'
    obtain rfl : b = some d := hb
    exact .taken hk (by simp [PatternStep.taken])

theorem Does.takeOne {s : CharSet} (h : steps[i]? = some (.takeOne s j)) :
    Does steps i j (Passes (s.mem · = true)) := by
  refine .of_moves h nofun fun k l k' ↦ ⟨fun hm ↦ ?_, ?_⟩
  · cases hm with
    | free h => cases h
    | taken hk h =>
      rw [PatternStep.taken] at h
      split at h
      · next hc => exact ⟨List.mem_singleton.1 h, _, hc, hk, rfl⟩
      · cases h
  · rintro ⟨rfl, d, hd, hk, hb⟩
    obtain ⟨b, r⟩ := k'
    obtain rfl : b = some d := hb
    exact .taken hk (by simp [PatternStep.taken, hd])

theorem Does.check {a : Assertion} (h : steps[i]? = some (.check a j)) :
    Does steps i j fun k k' ↦ a.holds k.before k.rest.head? = true ∧ k = k' := by
  refine .of_moves h nofun fun k l k' ↦ ⟨fun hm ↦ ?_, ?_⟩
  · cases hm with
    | free h =>
      rw [PatternStep.free] at h
      split at h
      · next ha => exact ⟨List.mem_singleton.1 h, ha, rfl⟩
      · cases h
    | taken _ h => cases h
  · rintro ⟨rfl, ha, rfl⟩
    exact .free (by simp [PatternStep.free, ha])

theorem moves_fork_iff {k k' : Cursor} {next other : Nat} :
    (PatternStep.fork next other).Moves k l k' ↔ (l = next ∨ l = other) ∧ k = k' := by
  constructor
  · intro hm
    cases hm with
    | free h => exact ⟨by simpa [PatternStep.free] using h, rfl⟩
    | taken _ h => cases h
  · rintro ⟨hl, rfl⟩
    exact .free (by simpa [PatternStep.free] using hl)

theorem ends_fork {n next other : Nat} {k : Cursor} (h : steps[i]? = some (.fork next other))
    (he : Ends steps n i k) : ∃ m, n = m + 1 ∧ (Ends steps m next k ∨ Ends steps m other k) := by
  cases he with
  | done h' => exact absurd (Option.some.inj (h.symm.trans h')) nofun
  | @move m _ l _ k k' h' hm he =>
    obtain rfl := Option.some.inj (h.symm.trans h')
    obtain ⟨hl, rfl⟩ := moves_fork_iff.1 hm
    refine ⟨m, rfl, ?_⟩
    rcases hl with rfl | rfl
    · exact .inl he
    · exact .inr he

theorem Does.fork {next other : Nat} (h : steps[i]? = some (.fork next other))
    (hr : Does steps next j R) (hs : Does steps other j S) :
    Does steps i j fun k k' ↦ R k k' ∨ S k k' where
  sound he := by
    obtain ⟨n, rfl, he | he⟩ := ends_fork h he
    · obtain ⟨m, hm, k', hr, he⟩ := hr.sound he
      exact ⟨m, Nat.le_succ_of_le hm, k', .inl hr, he⟩
    · obtain ⟨m, hm, k', hs, he⟩ := hs.sound he
      exact ⟨m, Nat.le_succ_of_le hm, k', .inr hs, he⟩
  complete := by
    rintro m k k' (hk | hk) he
    · obtain ⟨n, he⟩ := hr.complete hk he
      exact ⟨n + 1, .move h (moves_fork_iff.2 ⟨.inl rfl, rfl⟩) he⟩
    · obtain ⟨n, he⟩ := hs.complete hk he
      exact ⟨n + 1, .move h (moves_fork_iff.2 ⟨.inr rfl, rfl⟩) he⟩

theorem Does.loop {start next : Nat} (h : steps[i]? = some (.fork start next))
    (hr : Does steps start i R) :
    Does steps i next fun k k' ↦ ∃ n, Rounds R n k k' where
  sound {n k} he := by
    induction n using Nat.strongRecOn generalizing k with
    | ind n ih =>
      obtain ⟨n, rfl, he | he⟩ := ends_fork h he
      · obtain ⟨m, hm, x, hx, he⟩ := hr.sound he
        obtain ⟨m', hm', k', ⟨r, hk⟩, he⟩ := ih m (Nat.lt_succ_of_le hm) he
        exact ⟨m', by omega, k', ⟨r + 1, x, hx, hk⟩, he⟩
      · exact ⟨n, Nat.le_succ n, k, ⟨0, rfl⟩, he⟩
  complete := by
    rintro m k k' ⟨n, hk⟩ he
    induction n generalizing k with
    | zero =>
      obtain rfl := hk
      exact ⟨m + 1, .move h (moves_fork_iff.2 ⟨.inr rfl, rfl⟩) he⟩
    | succ n ih =>
      obtain ⟨x, hx, hk⟩ := hk
      obtain ⟨m, he⟩ := ih hk
      obtain ⟨m, he⟩ := hr.complete hx he
      exact ⟨m + 1, .move h (moves_fork_iff.2 ⟨.inl rfl, rfl⟩) he⟩

def Extends (code code' : PatternProgram) : Prop :=
  ∀ i < code.steps.size, code'.steps[i]? = code.steps[i]?

def Has (steps : Array PatternStep) (code code' : PatternProgram) : Prop :=
  ∀ i, code.steps.size ≤ i → i < code'.steps.size → steps[i]? = code'.steps[i]?

variable {code code' code'' : PatternProgram}

theorem Extends.size_le (h : Extends code code') : code.steps.size ≤ code'.steps.size := by
  refine Nat.not_lt.1 fun hlt ↦ ?_
  have hk := h _ hlt
  rw [Array.getElem?_eq_none (Nat.le_refl _), eq_comm, Array.getElem?_eq_none_iff] at hk
  exact Nat.not_le.2 hlt hk

theorem Extends.trans (h : Extends code code') (h' : Extends code' code'') :
    Extends code code'' := fun i hi ↦
  (h' i (Nat.lt_of_lt_of_le hi h.size_le)).trans (h i hi)

theorem Has.left (h : Has steps code code'') (hx : Extends code' code'') : Has steps code code' :=
  fun i hi hx' ↦ (h i hi (Nat.lt_of_lt_of_le hx' hx.size_le)).trans (hx i hx')

theorem Has.right (h : Has steps code code'') (hx : Extends code code') : Has steps code' code'' :=
  fun i hi ↦ h i (Nat.le_trans hx.size_le hi)

theorem extends_push (step : Nat → PatternStep) (code : PatternProgram) :
    Extends code (code.push step) := fun i hi ↦ by
  rw [push, Array.getElem?_push, if_neg (Nat.ne_of_lt hi)]

theorem Has.pushed {step : Nat → PatternStep} (h : Has steps code (code'.push step))
    (hx : Extends code code') : steps[code'.steps.size]? = some (step code'.start) := by
  rw [h _ hx.size_le (by simp [push]), push, Array.getElem?_push_size]

/-- What is put in front of a program does what `R` tells, and leaves the steps behind it. It does
so among any steps, for those behind it may be there only later. -/
structure Builds (f : PatternProgram → PatternProgram) (R : Cursor → Cursor → Prop) : Prop where
  keeps (code : PatternProgram) : Extends code (f code)
  does {code : PatternProgram} {steps : Array PatternStep} (h : Has steps code (f code)) :
    Does steps (f code).start code.start R

variable {f g : PatternProgram → PatternProgram}

theorem Builds.congr (h : Builds f R) (hs : ∀ k k', R k k' ↔ S k k') : Builds f S := by
  obtain rfl : R = S := funext fun k ↦ funext fun k' ↦ propext (hs k k')
  exact h

theorem Builds.id : Builds id Eq where
  keeps _ _ _ := rfl
  does _ := .refl _ _

theorem Builds.comp (hf : Builds f R) (hg : Builds g S) :
    Builds (fun code ↦ f (g code)) (Relation.Comp R S) where
  keeps code := (hg.keeps code).trans (hf.keeps _)
  does h := (hf.does (h.right (hg.keeps _))).comp (hg.does (h.left (hf.keeps _)))

theorem Builds.push {step : Nat → PatternStep}
    (h : ∀ {steps : Array PatternStep} {i j}, steps[i]? = some (step j) → Does steps i j R) :
    Builds (·.push step) R where
  keeps := extends_push step
  does hs := h (hs.pushed fun _ _ ↦ rfl)

theorem Builds.literal (s : Text) :
    Builds (fun code ↦ s.reverse.foldl (fun code c ↦ code.push (.takeChar c)) code) (Reads s) := by
  induction s with
  | nil => exact .id
  | cons c s ih =>
    simp only [List.reverse_cons, List.foldl_append]
    exact (Builds.push .takeChar).comp ih

theorem Builds.again (hf : Builds f R) (n : Nat) :
    Builds (PatternProgram.again f n) (Rounds R n) := by
  induction n with
  | zero => exact .id
  | succ n ih =>
    rw [rounds_succ]
    exact ih.comp hf

def UpTo (R : Cursor → Cursor → Prop) (m : Nat) (k k' : Cursor) : Prop := ∃ n ≤ m, Rounds R n k k'

theorem upTo_zero : UpTo R 0 = Eq := by
  funext k k'
  refine propext ⟨fun ⟨n, hn, h⟩ ↦ ?_, fun h ↦ ⟨0, Nat.le_refl 0, h⟩⟩
  obtain rfl := Nat.le_zero.1 hn
  exact h

theorem upTo_succ (m : Nat) :
    UpTo R (m + 1) = fun k k' ↦ Relation.Comp R (UpTo R m) k k' ∨ k = k' := by
  funext k k'
  refine propext ⟨?_, ?_⟩
  · rintro ⟨n, hn, h⟩
    cases n with
    | zero => exact .inr h
    | succ n =>
      obtain ⟨x, hx, h⟩ := h
      exact .inl ⟨x, hx, n, Nat.le_of_succ_le_succ hn, h⟩
  · rintro (⟨x, hx, n, hn, h⟩ | rfl)
    · exact ⟨n + 1, Nat.succ_le_succ hn, x, hx, h⟩
    · exact ⟨0, Nat.zero_le _, rfl⟩

theorem extends_optional (hf : Builds f R) (next : Nat) (code : PatternProgram) :
    Extends code ((f code).push (.fork · next)) := (hf.keeps code).trans (extends_push _ _)

theorem extends_again (hf : ∀ code, Extends code (f code)) (n : Nat) (code : PatternProgram) :
    Extends code (again f n code) := by
  induction n generalizing code with
  | zero => exact fun _ _ ↦ rfl
  | succ n ih => exact (hf code).trans (ih _)

/-- Every optional round leads on at the same step, which is not the one it is put before. -/
theorem does_again_optional (hf : Builds f R) {next : Nat} (n : Nat) {m : Nat}
    (h : Has steps code (again (fun code ↦ (f code).push (.fork · next)) n code))
    (hm : Does steps code.start next (UpTo R m)) :
    Does steps (again (fun code ↦ (f code).push (.fork · next)) n code).start next
      (UpTo R (m + n)) := by
  induction n generalizing code m with
  | zero => exact hm
  | succ n ih =>
    have hx := extends_again (extends_optional hf next) n ((f code).push (.fork · next))
    have hg := h.left hx
    have hround := (hf.does (hg.left (extends_push _ _))).comp hm
    have hfork := Does.fork (hg.pushed (hf.keeps code)) hround (.refl steps next)
    have hstep : Does steps (f code).steps.size next (UpTo R (m + 1)) := by
      rwa [upTo_succ]
    rw [show m + (n + 1) = m + 1 + n by omega]
    exact ih (h.right (extends_optional hf next code)) hstep

theorem loop_eq (f : PatternProgram → PatternProgram) (code : PatternProgram) :
    code.loop f =
      (code.steps.size,
        ⟨(f (code.push (.fork code.steps.size))).steps.setIfInBounds code.steps.size
            (.fork (f (code.push (.fork code.steps.size))).start code.start),
          (f (code.push (.fork code.steps.size))).start⟩) := rfl

theorem extends_loop (hf : Builds f R) (code : PatternProgram) :
    Extends code (code.loop f).2 := fun i hi ↦ by
  rw [loop_eq, Array.getElem?_setIfInBounds_ne (Nat.ne_of_gt hi)]
  exact ((extends_push _ code).trans (hf.keeps _)) i hi

theorem does_loop (hf : Builds f R) (h : Has steps code (code.loop f).2) :
    Does steps (code.loop f).2.start code.steps.size R ∧
      Does steps code.steps.size code.start fun k k' ↦ ∃ n, Rounds R n k k' := by
  have hx : Extends (code.push (.fork code.steps.size)) _ := hf.keeps _
  have hlt : code.steps.size < (f (code.push (.fork code.steps.size))).steps.size :=
    Nat.lt_of_lt_of_le (by simp [push]) hx.size_le
  have hfork := h code.steps.size (Nat.le_refl _) (by simpa [loop_eq] using hlt)
  have hbody : Has steps (code.push (.fork code.steps.size)) (f _) := fun i hi hi' ↦ by
    have hne : code.steps.size < i := Nat.lt_of_lt_of_le (by simp [push]) hi
    rw [h i (Nat.le_of_lt hne) (by simpa [loop_eq] using hi'), loop_eq,
      Array.getElem?_setIfInBounds_ne (Nat.ne_of_lt hne)]
  rw [loop_eq, Array.getElem?_setIfInBounds_self_of_lt hlt] at hfork
  exact ⟨hf.does hbody, .loop hfork (hf.does hbody)⟩

end PatternProgram

open PatternProgram

namespace Pattern

theorem builds_alt {p q : Pattern} (hp : Builds p.before p.Takes) (hq : Builds q.before q.Takes) :
    Builds (alt p q).before (alt p q).Takes where
  keeps code :=
    ((hq.keeps code).trans (hp.keeps { q.before code with start := code.start })).trans
      (extends_push _ _)
  does {code _} h := by
    have hx := hp.keeps { q.before code with start := code.start }
    have hforked := h.left (extends_push _ _)
    exact .fork (h.pushed ((hq.keeps code).trans hx)) (hp.does (hforked.right (hq.keeps code)))
      (hq.does (hforked.left hx))

theorem builds_times {p : Pattern} (hp : Builds p.before p.Takes) (least : Nat)
    (most : Option Nat) (isLazy : Bool) :
    Builds (times p least most isLazy).before (times p least most isLazy).Takes := by
  match least, most with
  | 0, none =>
    have h : Builds (times p 0 none isLazy).before fun k k' ↦ ∃ n, Rounds p.Takes n k k' :=
      ⟨extends_loop hp, fun h ↦ (does_loop hp h).2⟩
    exact h.congr fun k k' ↦ exists_congr fun n ↦ by simp [Allows]
  | n + 1, none =>
    have h : Builds (fun code ↦ (code.loop p.before).2)
        (Relation.Comp p.Takes fun k k' ↦ ∃ r, True ∧ Rounds p.Takes r k k') := by
      simp only [true_and]
      exact ⟨extends_loop hp, fun h ↦ (does_loop hp h).1.comp (does_loop hp h).2⟩
    refine ((hp.again n).comp h).congr fun k k' ↦ ?_
    rw [← Relation.comp_assoc, ← rounds_succ, comp_rounds_iff]
    constructor
    · rintro ⟨r, -, h⟩
      exact ⟨n + 1 + r, ⟨Nat.le_add_right _ _, nofun⟩, h⟩
    · rintro ⟨m, ⟨hm, -⟩, h⟩
      exact ⟨m - (n + 1), trivial, by rwa [Nat.add_sub_cancel' hm]⟩
  | least, some most =>
    have hbefore : (times p least (some most) isLazy).before = fun code ↦
        .again p.before least (.again
          (fun code' ↦ (p.before code').push (.fork · code.start)) (most - least) code) := by
      cases least <;> rfl
    have h : Builds (fun code ↦ .again
        (fun code' ↦ (p.before code').push (.fork · code.start)) (most - least) code)
        (UpTo p.Takes (most - least)) := by
      refine ⟨fun code ↦ extends_again (extends_optional hp _) _ code, fun {code steps} h ↦ ?_⟩
      have hzero : Does steps code.start code.start (UpTo p.Takes 0) := by
        rw [upTo_zero]
        exact .refl steps code.start
      have hup := does_again_optional hp (most - least) h hzero
      rwa [Nat.zero_add] at hup
    rw [hbefore]
    refine ((hp.again least).comp h).congr fun k k' ↦ comp_rounds_iff.trans ?_
    constructor
    · rintro ⟨r, hr, h⟩
      exact ⟨least + r, ⟨Nat.le_add_right _ _, fun m hm ↦ by cases hm; omega⟩, h⟩
    · rintro ⟨m, ⟨hm, hmost⟩, h⟩
      have := hmost most rfl
      exact ⟨m - least, by omega, by rwa [Nat.add_sub_cancel' hm]⟩

/-- A pattern that is put in front of a program takes its texts, and then goes on there. -/
theorem builds_before (p : Pattern) : Builds p.before p.Takes := by
  induction p with
  | empty => exact .id
  | literal s => exact .literal s
  | one s => exact .push .takeOne
  | assertion a => exact .push .check
  | group n p ih => exact ih
  | seq p q ihp ihq => exact ihp.comp ihq
  | alt p q ihp ihq => exact builds_alt ihp ihq
  | times p least most isLazy ih => exact builds_times ih least most isLazy

/-- The program of a pattern is done from a place on if the pattern takes something there. -/
theorem exists_ends_program_iff (p : Pattern) (k : Cursor) :
    (∃ n, Ends p.program.steps n p.program.start k) ↔ ∃ k', p.Takes k k' := by
  have hb := builds_before p
  have hdone : p.program.steps[0]? = some .done := hb.keeps ⟨#[.done], 0⟩ 0 Nat.one_pos
  have hdoes : Does p.program.steps p.program.start 0 p.Takes := hb.does fun _ _ _ ↦ rfl
  constructor
  · rintro ⟨n, h⟩
    obtain ⟨_, -, k', hk, -⟩ := hdoes.sound h
    exact ⟨k', hk⟩
  · rintro ⟨k', hk⟩
    exact hdoes.complete hk (.done hdone)

end Pattern

end LiteralPatch
