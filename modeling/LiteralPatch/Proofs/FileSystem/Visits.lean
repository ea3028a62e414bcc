import LiteralPatch.Proofs.FileSystem.Below
import Mathlib.Data.List.Dedup
import Mathlib.Data.List.Perm.Basic

namespace LiteralPatch

def Listed (visits : List Visit) : Prop := ∀ v ∈ visits, ∃ path, v = .entry path

variable {host : Host} {before : ListingOrder} {here : Location} {path : Text} {depth : Nat}
  {n : Node} {fault? : Option Fault} {visits visits' : List Visit}

theorem Visit.unless_none (path : Text) (depth : Nat) (visits : List Visit) :
    Visit.unless none path depth visits = visits := rfl

theorem Visit.perm_unless (h : visits.Perm visits') :
    (Visit.unless fault? path depth visits).Perm (Visit.unless fault? path depth visits') := by
  cases fault? with
  | none => exact h
  | some fault => exact .refl _

theorem listed_unless :
    Listed (Visit.unless fault? path depth visits) ↔ fault? = none ∧ Listed visits := by
  cases fault? <;> simp [Visit.unless, Listed]

theorem visitsBelow_eq_map (host : Host) (before : ListingOrder) (here : Location) (path : Text)
    (depth : Nat) (entries : List (Text × Node)) :
    visitsBelow host before here path depth entries = entries.map fun e ↦
      (e.1, e.2.visits host before (here ++ [e.1]) (Path.join path e.1) depth) := by
  induction entries with
  | nil => rfl
  | cons e entries ih =>
    obtain ⟨name, n⟩ := e
    rw [visitsBelow, ih, List.map_cons]

/-- The order in which directories are listed changes nothing but the order of the visits. -/
theorem Node.visits_perm_visits (host : Host) (before before' : ListingOrder) (here : Location)
    (path : Text) (depth : Nat) (n : Node) :
    (n.visits host before here path depth).Perm (n.visits host before' here path depth) := by
  induction n using Node.induction generalizing here path depth with
  | file content => exact .refl _
  | link target => exact .refl _
  | dir entries ih =>
    rw [visits, visits, visitsBelow_eq_map, visitsBelow_eq_map]
    refine Visit.perm_unless (.cons _ (Visit.perm_unless ?_))
    have hsort (before : ListingOrder) (l : List (Text × List Visit)) :=
      (List.mergeSort_perm l fun a b ↦ before path a.1 b.1).flatMap_right Prod.snd
    refine (hsort before _).trans (List.Perm.trans ?_ (hsort before' _).symm)
    rw [List.flatMap_map, List.flatMap_map]
    exact List.Perm.flatMap_left entries fun e he ↦ ih e he _ _ _

theorem Node.visits_perm (h : Listed (n.visits host before here path depth)) :
    (n.visits host before here path depth).Perm
      (n.locations.map fun loc ↦ .entry (Path.below path loc)) := by
  induction n using Node.induction generalizing here path depth with
  | file content =>
    rw [visits] at h ⊢
    rw [(listed_unless.1 h).1]
    exact .refl _
  | link target =>
    rw [visits] at h ⊢
    rw [(listed_unless.1 h).1]
    exact .refl _
  | dir entries ih =>
    rw [visits] at h ⊢
    obtain ⟨hlost, h⟩ := listed_unless.1 h
    obtain ⟨hlist, h⟩ := listed_unless.1 (List.forall_mem_cons.1 h).2
    rw [visitsBelow_eq_map] at h ⊢
    rw [hlost, hlist, Visit.unless_none, Visit.unless_none, locations, locationsBelow_eq_flatMap,
      List.map_cons]
    -- Sorting moves the visits of each entry as a block, and these are permuted one by one.
    have hsort := (List.mergeSort_perm (entries.map fun e ↦ (e.1,
      e.2.visits host before (here ++ [e.1]) (Path.join path e.1) (depth + 1)))
        fun a b ↦ before path a.1 b.1).flatMap_right Prod.snd
    refine .cons _ (hsort.trans ?_)
    rw [List.flatMap_map] at hsort ⊢
    rw [List.map_flatMap]
    refine List.Perm.flatMap_left entries fun e he ↦ ?_
    rw [List.map_map]
    exact ih e he fun v hv ↦ h v (hsort.mem_iff.2 (List.mem_flatMap.2 ⟨e, he, hv⟩))

namespace FileSystem

variable {fs : FileSystem} {root : Text} {rel : Location} {v : Visit}

theorem walk_perm_walk (before before' : ListingOrder) (fs : FileSystem) (root : Text) :
    (fs.walk before root).Perm (fs.walk before' root) := by
  rw [walk, walk]
  cases fs.locate root with
  | error fault => exact .refl _
  | ok here =>
    cases hn : fs.top.at? here with
    | none => simp [hn]
    | some n => simpa [hn] using n.visits_perm_visits fs.host before before' here root 0

theorem exists_of_isDir (h : fs.isDir root = true) :
    ∃ here n, fs.locate root = .ok here ∧ fs.top.at? here = some n ∧ n.isDir = true := by
  obtain ⟨n, hn, hd⟩ := (Option.any_eq_true _ _).1 h
  rw [node?] at hn
  cases hl : fs.locate root with
  | error fault =>
    rw [hl] at hn
    cases hn
  | ok here =>
    rw [hl] at hn
    exact ⟨here, n, rfl, hn, hd⟩

theorem mem_locations_iff (hp : fs.top.Proper) (hn : fs.top.at? here = some n) :
    rel ∈ n.locations ↔ (fs.top.at? (here ++ rel)).isSome = true := by
  rw [Node.at?_append, hn]
  exact Node.mem_locations (hp.of_at? hn).1

section Located

variable (hp : fs.top.Proper) (hh : fs.locate root = .ok here)
  (hn : fs.top.at? here = some n) (hv : Listed (fs.walk before root))

include hh hn hv in
theorem walk_perm :
    (fs.walk before root).Perm (n.locations.map fun rel ↦ .entry (Path.below root rel)) := by
  have hwalk : fs.walk before root = n.visits fs.host before here root 0 := by
    rw [walk, hh]
    simp only [hn]
  rw [hwalk] at hv ⊢
  exact Node.visits_perm hv

include hp hh hn hv

theorem mem_walk_iff :
    v ∈ fs.walk before root ↔
      ∃ rel, (fs.top.at? (here ++ rel)).isSome = true ∧ .entry (Path.below root rel) = v := by
  rw [(walk_perm hh hn hv).mem_iff, List.mem_map]
  simp only [mem_locations_iff hp hn]

/-- A walk comes to no path twice. -/
theorem nodup_walk : (fs.walk before root).Nodup := by
  rw [(walk_perm hh hn hv).nodup_iff]
  refine List.Nodup.map_on (fun rel hrel rel' hrel' he ↦ ?_)
    (Node.nodup_locations (hp.of_at? hn).1)
  exact Path.below_injective (isName_of_isSome hp ((mem_locations_iff hp hn).1 hrel))
    (isName_of_isSome hp ((mem_locations_iff hp hn).1 hrel')) (Visit.entry.inj he)

end Located

end FileSystem

end LiteralPatch
