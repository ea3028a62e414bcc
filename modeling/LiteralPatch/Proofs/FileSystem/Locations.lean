import LiteralPatch.Proofs.FileSystem.Tree
import LiteralPatch.Proofs.Path
import LiteralPatch.Proofs.Span
import Mathlib.Data.List.Nodup

namespace LiteralPatch

namespace Node

@[elab_as_elim]
theorem induction {P : Node → Prop} (file : ∀ content, P (.file content))
    (link : ∀ target, P (.link target))
    (dir : ∀ entries, (∀ e ∈ entries, P e.2) → P (.dir entries)) (n : Node) : P n :=
  @Node.rec P (fun entries ↦ ∀ e ∈ entries, P e.2) (fun e ↦ P e.2) file link dir
    (fun _ h ↦ nomatch h) (fun _ _ he ht e h ↦ by
      rcases List.mem_cons.1 h with rfl | h
      · exact he
      · exact ht e h)
    (fun _ _ h ↦ h) n

mutual

def Proper : Node → Prop
  | file _ => True
  | link _ => True
  | dir entries => (entries.map Prod.fst).Nodup ∧ ProperBelow entries

def ProperBelow : List (Text × Node) → Prop
  | [] => True
  | (name, n) :: entries => IsName name ∧ n.Proper ∧ ProperBelow entries

end

mutual

def locations : Node → List Location
  | file _ => [[]]
  | link _ => [[]]
  | dir entries => [] :: locationsBelow entries

def locationsBelow : List (Text × Node) → List Location
  | [] => []
  | (name, n) :: entries => n.locations.map (name :: ·) ++ locationsBelow entries

end

variable {n m : Node} {loc rest : Location} {name : Text} {entries : List (Text × Node)}

theorem properBelow_iff :
    ProperBelow entries ↔ ∀ e ∈ entries, IsName e.1 ∧ e.2.Proper := by
  induction entries with
  | nil => simp [ProperBelow]
  | cons e entries ih =>
    obtain ⟨name, n⟩ := e
    rw [ProperBelow, ih, List.forall_mem_cons, and_assoc]

theorem locationsBelow_eq_flatMap (entries : List (Text × Node)) :
    locationsBelow entries = entries.flatMap fun e ↦ e.2.locations.map (e.1 :: ·) := by
  induction entries with
  | nil => rfl
  | cons e entries ih =>
    obtain ⟨name, n⟩ := e
    rw [locationsBelow, ih, List.flatMap_cons]

theorem Proper.of_lookup (h : (dir entries).Proper) (hl : entries.lookup name = some n) :
    IsName name ∧ n.Proper := by
  rw [Proper] at h
  exact properBelow_iff.1 h.2 _ (mem_of_lookup hl)

theorem Proper.of_at? (h : n.Proper) (hm : n.at? loc = some m) :
    m.Proper ∧ ∀ name ∈ loc, IsName name := by
  induction loc generalizing n with
  | nil =>
    rw [at?_nil] at hm
    obtain rfl := Option.some.inj hm
    exact ⟨h, fun _ hn ↦ (by cases hn)⟩
  | cons name loc ih =>
    obtain ⟨entries, child, rfl, hl, hc⟩ := at?_cons_eq_some hm
    obtain ⟨hname, hchild⟩ := h.of_lookup hl
    obtain ⟨hp, hloc⟩ := ih hchild hc
    exact ⟨hp, List.forall_mem_cons.2 ⟨hname, hloc⟩⟩

theorem mem_locations (h : n.Proper) : loc ∈ n.locations ↔ (n.at? loc).isSome = true := by
  induction n using Node.induction generalizing loc with
  | file content => cases loc <;> simp [locations, at?]
  | link target => cases loc <;> simp [locations, at?]
  | dir entries ih =>
    rw [locations, locationsBelow_eq_flatMap]
    cases loc with
    | nil => simp
    | cons name rest =>
      simp only [List.mem_cons, reduceCtorEq, false_or, List.mem_flatMap, List.mem_map,
        List.cons.injEq]
      constructor
      · rintro ⟨e, he, rest', hrest, rfl, rfl⟩
        have hl := lookup_of_mem h.1 he
        rw [at?, hl]
        exact (ih e he (h.of_lookup hl).2).1 hrest
      · intro hs
        obtain ⟨m, hm⟩ := Option.isSome_iff_exists.1 hs
        obtain ⟨_, child, hd, hl, hc⟩ := at?_cons_eq_some hm
        obtain rfl := Node.dir.inj hd
        refine ⟨(name, child), mem_of_lookup hl, rest, ?_, rfl, rfl⟩
        exact (ih _ (mem_of_lookup hl) (h.of_lookup hl).2).2 (by rw [hc]; rfl)

theorem nodup_locations (h : n.Proper) : n.locations.Nodup := by
  induction n using Node.induction with
  | file content => exact List.nodup_singleton _
  | link target => exact List.nodup_singleton _
  | dir entries ih =>
    rw [locations, locationsBelow_eq_flatMap, List.nodup_cons, List.nodup_flatMap]
    refine ⟨?_, fun e he ↦ ?_, ?_⟩
    · simp
    · exact (ih e he (properBelow_iff.1 h.2 e he).2).map fun _ _ hr ↦ (List.cons.inj hr).2
    · -- Locations below different entries differ in their first names.
      refine (List.pairwise_map.1 h.1).imp fun hne loc ha hb ↦ ?_
      obtain ⟨r, -, rfl⟩ := List.mem_map.1 ha
      obtain ⟨r', -, hr⟩ := List.mem_map.1 hb
      exact hne (List.cons.inj hr).1.symm

end Node

end LiteralPatch
