import LiteralPatch.Text

namespace LiteralPatch

namespace Text

def insertBehind (f : Nat → Text) : Text → Text
  | [] => []
  | c :: s => c :: (f 0 ++ insertBehind (fun i ↦ f (i + 1)) s)

def landing (f : Nat → Text) : Nat → Nat
  | 0 => 0
  | i + 1 => 1 + (f 0).length + landing (fun k ↦ f (k + 1)) i

variable {f g : Nat → Text} {s : Text}

theorem insertBehind_congr (h : ∀ i < s.length, f i = g i) :
    insertBehind f s = insertBehind g s := by
  induction s generalizing f g with
  | nil => rfl
  | cons c s ih =>
    have ht : ∀ i < s.length, f (i + 1) = g (i + 1) := fun i hi ↦ h (i + 1) (Nat.succ_lt_succ hi)
    rw [insertBehind, insertBehind, h 0 (Nat.zero_lt_succ _), ih ht]

theorem insertBehind_eq_self (h : ∀ i < s.length, f i = []) : insertBehind f s = s := by
  induction s generalizing f with
  | nil => rfl
  | cons c s ih =>
    rw [insertBehind, h 0 (Nat.zero_lt_succ _), ih fun i hi ↦ h (i + 1) (Nat.succ_lt_succ hi)]
    rfl

theorem insertBehind_append (f : Nat → Text) (a b : Text) :
    insertBehind f (a ++ b) =
      insertBehind f a ++ insertBehind (fun i ↦ f (a.length + i)) b := by
  induction a generalizing f with
  | nil => simp [insertBehind]
  | cons c a ih =>
    have hl : (fun i ↦ f (a.length + i + 1)) = fun i ↦ f (a.length + 1 + i) := by
      funext i
      rw [Nat.add_right_comm]
    simp [insertBehind, ih, hl]

theorem insertBehind_eq_nil_iff : insertBehind f s = [] ↔ s = [] := by
  cases s with
  | nil => simp [insertBehind]
  | cons c s => simp [insertBehind]

theorem insertBehind_single {n : Nat} (x : Text) (hn : n < s.length) :
    insertBehind (fun i ↦ if i = n then x else []) s = s.take (n + 1) ++ x ++ s.drop (n + 1) := by
  induction s generalizing n with
  | nil => simp at hn
  | cons c s ih =>
    cases n with
    | zero =>
      rw [insertBehind, insertBehind_eq_self fun i _ ↦ by simp]
      simp
    | succ n =>
      have h := ih (Nat.lt_of_succ_lt_succ hn)
      simp [insertBehind, h]

theorem insertBehind_option (x : Text) (o : Option Nat) (ho : ∀ n, o = some n → n < s.length) :
    insertBehind (fun i ↦ if o = some i then x else []) s =
      (o.map fun n ↦ s.take (n + 1) ++ x ++ s.drop (n + 1)).getD s := by
  cases o with
  | none => exact insertBehind_eq_self fun i _ ↦ by simp
  | some n =>
    have hi : (fun i ↦ if some n = some i then x else []) = fun i ↦ if i = n then x else [] := by
      funext i
      simp [eq_comm]
    rw [hi]
    exact insertBehind_single x (ho n rfl)

theorem sublist_insertBehind (f : Nat → Text) (s : Text) : s.Sublist (insertBehind f s) := by
  induction s generalizing f with
  | nil => exact List.nil_sublist _
  | cons c s ih =>
    exact ((ih _).trans (List.sublist_append_right _ _)).cons_cons c

theorem landing_succ (f : Nat → Text) (i : Nat) :
    landing f (i + 1) = (f 0).length + landing (fun k ↦ f (k + 1)) i + 1 := by
  rw [landing]
  omega

theorem landing_eq_self (h : ∀ i, f i = []) (i : Nat) : landing f i = i := by
  induction i generalizing f with
  | zero => rfl
  | succ i ih => rw [landing_succ, h 0, ih fun k ↦ h (k + 1), List.length_nil, Nat.zero_add]

theorem getElem?_insertBehind_succ (f : Nat → Text) (c : Char) (s : Text) (j : Nat) :
    (insertBehind f (c :: s))[(f 0).length + j + 1]? =
      (insertBehind (fun i ↦ f (i + 1)) s)[j]? := by
  rw [insertBehind, List.getElem?_cons_succ, List.getElem?_append_right (Nat.le_add_right _ _),
    Nat.add_sub_cancel_left]

theorem getElem?_landing (f : Nat → Text) {i : Nat} (hi : i < s.length) :
    (insertBehind f s)[landing f i]? = s[i]? := by
  induction s generalizing f i with
  | nil => exact absurd hi (Nat.not_lt_zero i)
  | cons c s ih =>
    cases i with
    | zero => rfl
    | succ i =>
      rw [landing_succ, getElem?_insertBehind_succ]
      exact ih _ (Nat.lt_of_succ_lt_succ hi)

theorem getElem?_landing_add (f : Nat → Text) {i k : Nat} (hi : i < s.length)
    (hk : k < (f i).length) : (insertBehind f s)[landing f i + 1 + k]? = (f i)[k]? := by
  induction s generalizing f i with
  | nil => exact absurd hi (Nat.not_lt_zero i)
  | cons c s ih =>
    cases i with
    | zero =>
      have hl : landing f 0 + 1 + k = k + 1 := by
        rw [landing]
        omega
      rw [hl, insertBehind, List.getElem?_cons_succ, List.getElem?_append_left hk]
    | succ i =>
      have hl : landing f (i + 1) + 1 + k =
          (f 0).length + (landing (fun k ↦ f (k + 1)) i + 1 + k) + 1 := by
        rw [landing_succ]
        omega
      rw [hl, getElem?_insertBehind_succ]
      exact ih (fun k ↦ f (k + 1)) (Nat.lt_of_succ_lt_succ hi) hk

/-- An insertion into an insertion. Behind a character stands first what the later one puts there,
then what the earlier one does, with the later one's texts in it. -/
theorem insertBehind_insertBehind (f g : Nat → Text) (s : Text) :
    insertBehind g (insertBehind f s) =
      insertBehind (fun i ↦ g (landing f i) ++
        insertBehind (fun k ↦ g (landing f i + 1 + k)) (f i)) s := by
  induction s generalizing f g with
  | nil => rfl
  | cons c s ih =>
    have hfront : (fun k ↦ g (k + 1)) = fun k ↦ g (landing f 0 + 1 + k) := by
      funext k
      rw [landing, Nat.zero_add, Nat.add_comm]
    have hback (i : Nat) : g ((f 0).length + landing (fun k ↦ f (k + 1)) i + 1) =
        g (landing f (i + 1)) := congrArg g (landing_succ f i).symm
    have hinner (i k : Nat) : g ((f 0).length + (landing (fun k ↦ f (k + 1)) i + 1 + k) + 1) =
        g (landing f (i + 1) + 1 + k) := by
      congr 1
      rw [landing_succ]
      omega
    rw [insertBehind, insertBehind, insertBehind_append, ih, insertBehind, List.append_assoc,
      hfront]
    simp only [hback, hinner]
    rfl

theorem countP_insertBehind_eq_iff {P : Char → Bool} :
    (insertBehind f s).countP P = s.countP P ↔ ∀ i < s.length, (f i).countP P = 0 := by
  induction s generalizing f with
  | nil => simp [insertBehind]
  | cons c s ih =>
    have hle : s.countP P ≤ (insertBehind (fun i ↦ f (i + 1)) s).countP P :=
      (sublist_insertBehind _ s).countP_le
    have hsplit : (insertBehind f (c :: s)).countP P = (c :: s).countP P ↔
        (f 0).countP P = 0 ∧ (insertBehind (fun i ↦ f (i + 1)) s).countP P = s.countP P := by
      simp only [insertBehind, List.countP_cons, List.countP_append]
      omega
    rw [hsplit, ih]
    constructor
    · rintro ⟨hz, hs⟩ (_ | i) hi
      · exact hz
      · exact hs i (Nat.lt_of_succ_lt_succ hi)
    · intro h
      exact ⟨h 0 (Nat.zero_lt_succ _), fun i hi ↦ h (i + 1) (Nat.succ_lt_succ hi)⟩

theorem append_cons_inj {P : Char → Bool} {c : Char} {a a' b b' : Text} (hc : P c = true)
    (hn : a.countP P = a'.countP P) (h : a ++ c :: b = a' ++ c :: b') : a = a' ∧ b = b' := by
  have hshort {x y z w : Text} (hx : x ++ c :: z = y ++ c :: w) (hxy : x.countP P = y.countP P) :
      y.length ≤ x.length := by
    rcases List.append_eq_append_iff.1 hx with ⟨t, rfl, ht⟩ | ⟨t, rfl, -⟩
    · rcases List.cons_eq_append_iff.1 ht with ⟨rfl, -⟩ | ⟨t', rfl, -⟩
      · simp
      · simp [hc] at hxy
    · simp
  have hl : a.length = a'.length := Nat.le_antisymm (hshort h.symm hn.symm) (hshort h hn)
  obtain ⟨rfl, ht⟩ := List.append_inj h hl
  exact ⟨rfl, (List.cons.inj ht).2⟩

theorem insertBehind_behind_eq {P : Char → Bool} {c : Char} {a b : Text} (hc : P c = true)
    (hf : ∀ i < (a ++ c :: b).length, (f i).countP P = 0)
    (hg : ∀ i < (a ++ c :: b).length, (g i).countP P = 0)
    (h : insertBehind f (a ++ c :: b) = insertBehind g (a ++ c :: b)) :
    f a.length ++ insertBehind (fun i ↦ f (a.length + (i + 1))) b =
      g a.length ++ insertBehind (fun i ↦ g (a.length + (i + 1))) b := by
  have ha {i : Nat} (hi : i < a.length) : i < (a ++ c :: b).length := by
    rw [List.length_append]
    omega
  have hn : (insertBehind f a).countP P = (insertBehind g a).countP P :=
    (countP_insertBehind_eq_iff.2 fun i hi ↦ hf i (ha hi)).trans
      (countP_insertBehind_eq_iff.2 fun i hi ↦ hg i (ha hi)).symm
  rw [insertBehind_append, insertBehind_append, insertBehind, insertBehind] at h
  exact (append_cons_inj hc hn h).2

theorem exists_of_replicate_prefix {d : Char} {n : Nat}
    (h : List.replicate n d <+: insertBehind f s) (hs : ¬List.replicate n d <+: s) :
    ∃ j < s.length, f j ≠ [] ∧ ∀ k ≤ j, s[k]? = some d := by
  induction s generalizing f n with
  | nil => exact absurd h hs
  | cons c s ih =>
    cases n with
    | zero => exact absurd (List.nil_prefix) hs
    | succ n =>
      rw [List.replicate_succ, insertBehind, List.cons_prefix_cons] at h
      obtain ⟨rfl, h⟩ := h
      by_cases hf : f 0 = []
      · rw [hf, List.nil_append] at h
        have hs' : ¬List.replicate n d <+: s := fun hp ↦
          hs (List.cons_prefix_cons.2 ⟨rfl, hp⟩)
        obtain ⟨j, hj, hn, hk⟩ := ih h hs'
        refine ⟨j + 1, Nat.succ_lt_succ hj, hn, ?_⟩
        rintro (_ | k) hle
        · rfl
        · exact hk k (Nat.le_of_succ_le_succ hle)
      · refine ⟨0, Nat.zero_lt_succ _, hf, ?_⟩
        intro k hk
        obtain rfl : k = 0 := by omega
        rfl

end Text

end LiteralPatch
