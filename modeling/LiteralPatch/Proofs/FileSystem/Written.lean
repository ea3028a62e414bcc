import LiteralPatch.Proofs.FileSystem.Amend

namespace LiteralPatch

namespace Node

/-- Two nodes of one kind, and two links with one target. -/
inductive Alike : Node → Node → Prop
  | file (b c : Bytes) : Alike (file b) (file c)
  | link (target : Text) : Alike (link target) (link target)
  | dir (entries entries' : List (Text × Node)) : Alike (dir entries) (dir entries')

variable {n m new : Node} {name : Text} {entries : List (Text × Node)} {loc : Location}

theorem Alike.refl (n : Node) : Alike n n := by
  cases n with
  | file b => exact .file b b
  | link target => exact .link target
  | dir entries => exact .dir entries entries

theorem at?_put_concat (h : n.at? loc = some (dir entries)) (name : Text) (new : Node) :
    (n.put (loc ++ [name]) new).at? (loc ++ [name]) = some new := by
  induction loc generalizing n with
  | nil =>
    obtain rfl : n = dir entries := by simpa using h
    simp [put, at?, lookup_setEntry]
  | cons key loc ih =>
    obtain ⟨_, child, rfl, hl, hc⟩ := at?_cons_eq_some h
    rw [List.cons_append, put_cons_of_lookup hl, at?, lookup_setEntry, if_pos rfl]
    exact ih hc

theorem exists_alike_put (h : n.at? loc = some (dir entries)) (hf : entries.lookup name = none)
    (new : Node) {there : Location} (hm : n.at? there = some m) :
    ∃ m', (n.put (loc ++ [name]) new).at? there = some m' ∧ Alike m m' := by
  induction loc generalizing n there with
  | nil =>
    obtain rfl : n = dir entries := by simpa using h
    cases there with
    | nil =>
      obtain rfl : dir entries = m := by simpa using hm
      exact ⟨_, at?_nil _, .dir _ _⟩
    | cons other rest =>
      obtain ⟨_, child, hd, hl, hc⟩ := at?_cons_eq_some hm
      obtain rfl := dir.inj hd
      have hne : other ≠ name := by
        rintro rfl
        rw [hf] at hl
        cases hl
      refine ⟨m, ?_, .refl m⟩
      rw [List.nil_append, put, at?, lookup_setEntry, if_neg hne, hl]
      exact hc
  | cons key loc ih =>
    obtain ⟨entries', child, rfl, hl, hc⟩ := at?_cons_eq_some h
    rw [List.cons_append, put_cons_of_lookup hl]
    cases there with
    | nil =>
      obtain rfl : dir entries' = m := by simpa using hm
      exact ⟨_, at?_nil _, .dir _ _⟩
    | cons other rest =>
      obtain ⟨_, child', hd, hl', hc'⟩ := at?_cons_eq_some hm
      obtain rfl := dir.inj hd
      rw [at?, lookup_setEntry]
      by_cases ho : other = key
      · subst ho
        obtain rfl : child = child' := Option.some.inj (hl.symm.trans hl')
        rw [if_pos rfl]
        exact ih hc hc'
      · rw [if_neg ho, hl']
        exact ⟨m, hc', .refl m⟩

end Node

namespace FileSystem

/-- Whatever stands in the first file system, a node like it stands in its place in the second. -/
def Keeps (fs fs' : FileSystem) : Prop :=
  ∀ loc n, fs.top.at? loc = some n → ∃ n', fs'.top.at? loc = some n' ∧ Node.Alike n n'

variable {fs fs' : FileSystem} {creating : Bool} {links : Nat} {here loc dir : Location}
  {steps : List Text} {place : Place} {path name : Text} {b c : Bytes}

theorem Keeps.refl (fs : FileSystem) : fs.Keeps fs := fun _ n h ↦ ⟨n, h, .refl n⟩

theorem dirAt_iff : fs.dirAt loc ↔ ∃ entries, fs.top.at? loc = some (.dir entries) := by
  rw [dirAt, Option.any_eq_true]
  constructor
  · rintro ⟨n, hn, hd⟩
    cases n with
    | dir entries => exact ⟨entries, hn⟩
    | file b => cases hd
    | link target => cases hd
  · rintro ⟨entries, h⟩
    exact ⟨_, h, rfl⟩

theorem Keeps.dirAt (h : fs.Keeps fs') (hd : fs.dirAt loc) : fs'.dirAt loc := by
  obtain ⟨entries, hn⟩ := dirAt_iff.1 hd
  obtain ⟨n', hn', ha⟩ := h loc _ hn
  cases ha with
  | dir _ entries' => exact dirAt_iff.2 ⟨entries', hn'⟩

/-- Where a path leads to a node or to a free name, it leads to the same place once there is a file
of this name. -/
theorem Keeps.follow (hk : fs.Keeps fs') (h : fs.follow creating links here steps = .ok place)
    (hv : ∀ dir name, place = .vacant dir name →
      ∃ b, fs'.top.at? (dir ++ [name]) = some (.file b)) :
    fs'.follow false links here steps = .ok (.found place.target) := by
  fun_induction fs.follow creating links here steps with
  | case1 links here =>
    obtain rfl := Except.ok.inj h
    rw [FileSystem.follow]
    rfl
  | case2 | case5 | case6 | case8 | case9 => cases h
  | case3 links here step rest hd hs ih =>
    have hd' := hk.dirAt (dirAt_of_not hd)
    rw [FileSystem.follow, hd', if_neg (by decide), if_pos hs]
    exact ih h
  | case4 links here rest hd hs ih =>
    have hd' := hk.dirAt (dirAt_of_not hd)
    rw [FileSystem.follow, hd', if_neg (by decide), if_neg hs, if_pos rfl]
    exact ih h
  | case7 links here step rest hd hs hu hc hl hn hr =>
    have hd' := hk.dirAt (dirAt_of_not hd)
    obtain rfl := Except.ok.inj h
    obtain rfl : rest = [] := List.isEmpty_iff.1 hr
    obtain ⟨b, hb⟩ := hv here step rfl
    rw [follow_named hd' ⟨hs, hu, Nat.not_lt.1 hl⟩ rfl, hb]
    rw [FileSystem.follow]
    rfl
  | case10 here step rest hd hs hu hc hl target ht links ih =>
    have hd' := hk.dirAt (dirAt_of_not hd)
    obtain ⟨n', hn', ha⟩ := hk _ _ ht
    cases ha with
    | link =>
      rw [follow_named hd' ⟨hs, hu, Nat.not_lt.1 hl⟩ rfl, hn']
      exact ih h
  | case11 links here step rest hd hs hu hc hl m hm ht ih =>
    have hd' := hk.dirAt (dirAt_of_not hd)
    obtain ⟨n', hn', ha⟩ := hk _ _ ht
    rw [follow_named hd' ⟨hs, hu, Nat.not_lt.1 hl⟩ rfl, hn']
    cases ha with
    | file => exact ih h
    | link target => exact (hm target rfl).elim
    | dir => exact ih h

theorem dirAt_dropLast (h : fs.dirAt loc) : fs.dirAt loc.dropLast := by
  obtain rfl | ⟨init, name, rfl⟩ := List.eq_nil_or_concat loc
  · exact h
  · obtain ⟨entries, hn⟩ := dirAt_iff.1 h
    rw [List.concat_eq_append, Node.at?_append] at hn
    obtain ⟨n, hinit, hn⟩ := Option.bind_eq_some_iff.1 hn
    obtain ⟨entries', _, rfl, -⟩ := Node.at?_cons_eq_some hn
    rw [List.concat_eq_append, List.dropLast_concat]
    exact dirAt_iff.2 ⟨entries', hinit⟩

def Place.Stands (fs : FileSystem) : Place → Prop
  | .found loc => ∃ n, fs.top.at? loc = some n ∧ ∀ target, n ≠ .link target
  | .vacant dir name => fs.dirAt dir ∧ fs.top.at? (dir ++ [name]) = none

theorem stands_of_follow (h : fs.follow creating links here steps = .ok place)
    (hs : steps = [] → Place.Stands fs (.found here)) : place.Stands fs := by
  have stands {loc : Location} (hd : fs.dirAt loc) : Place.Stands fs (.found loc) := by
    obtain ⟨entries, hn⟩ := dirAt_iff.1 hd
    exact ⟨_, hn, fun _ he ↦ by cases he⟩
  fun_induction fs.follow creating links here steps with
  | case1 links here =>
    obtain rfl := Except.ok.inj h
    exact hs rfl
  | case2 | case5 | case6 | case8 | case9 => cases h
  | case3 links here step rest hd hstep ih =>
    exact ih h fun _ ↦ stands (dirAt_of_not hd)
  | case4 links here rest hd hstep ih =>
    exact ih h fun _ ↦ stands (dirAt_dropLast (dirAt_of_not hd))
  | case7 links here step rest hd hstep hu hc hl hn hr =>
    obtain rfl := Except.ok.inj h
    exact ⟨dirAt_of_not hd, hn⟩
  | case10 here step rest hd hstep hu hc hl target ht links ih =>
    exact ih h fun he ↦ absurd (List.append_eq_nil_iff.1 he).1 (by simp)
  | case11 links here step rest hd hstep hu hc hl m hm ht ih =>
    exact ih h fun _ ↦ ⟨m, ht, hm⟩

theorem resolve_target (h : fs.resolve true path = .ok place) (hk : fs.Keeps fs')
    (hcwd : fs'.cwd = fs.cwd)
    (hv : ∀ dir name, place = .vacant dir name →
      ∃ b, fs'.top.at? (dir ++ [name]) = some (.file b)) :
    fs'.locate path = .ok place.target := by
  have ha := admissible_of_resolve h
  have hstart : fs'.start path = fs.start path := by rw [start, start, hcwd]
  rw [resolve_of_admissible ha] at h
  rw [locate, resolve_of_admissible ha, hstart, hk.follow h hv]

theorem stands_of_resolve (h : fs.resolve creating path = .ok place) : place.Stands fs := by
  rw [resolve_of_admissible (admissible_of_resolve h)] at h
  exact stands_of_follow h fun he ↦ absurd he (by simp)

theorem keeps_setFile (hd : fs.dirAt dir) (hf : fs.top.at? (dir ++ [name]) = none) (c : Bytes) :
    fs.Keeps (fs.setFile (dir ++ [name]) c) ∧
      (fs.setFile (dir ++ [name]) c).top.at? (dir ++ [name]) = some (.file c) := by
  obtain ⟨entries, hn⟩ := dirAt_iff.1 hd
  have hlookup : entries.lookup name = none := by
    rw [Node.at?_append, hn] at hf
    simpa [Node.at?] using hf
  exact ⟨fun _ _ hm ↦ Node.exists_alike_put hn hlookup _ hm, Node.at?_put_concat hn name _⟩

theorem write_eq_ok_iff :
    fs.write path c = .ok fs' ↔ ∃ place, fs.resolve true path = .ok place ∧
      ¬fs.dirAt place.target ∧ fs.host.closed? place.target = none ∧
      fs.setFile place.target c = fs' := by
  rw [write]
  cases fs.resolve true path with
  | error fault => simp
  | ok place =>
    cases hd : (fs.top.at? place.target).any Node.isDir with
    | true => simp [dirAt, hd]
    | false => cases hc : fs.host.closed? place.target <;> simp [dirAt, hd, hc]

theorem read_write (h : fs.write path c = .ok fs') : fs'.read path = .ok c := by
  obtain ⟨place, hp, hd, hc, rfl⟩ := write_eq_ok_iff.1 h
  have hs := stands_of_resolve hp
  cases place with
  | found loc =>
    have hl : fs.locate path = .ok loc :=
      resolve_target hp (.refl fs) rfl fun _ _ he ↦ (by cases he)
    obtain ⟨n, hn, hlink⟩ := hs
    cases n with
    | link target => exact absurd rfl (hlink target)
    | dir entries => exact absurd (dirAt_iff.2 ⟨entries, hn⟩) hd
    | file b =>
      have hb : fs.content? loc = some b := content?_eq_some.2 hn
      rw [Place.target, ← amend_of_content? hl hb fun _ ↦ c]
      exact read_amend (read_eq_ok_iff.2 ⟨loc, hl, hb, hc⟩) _
  | vacant dir name =>
    obtain ⟨hk, hnew⟩ := keeps_setFile hs.1 hs.2 c
    refine read_eq_ok_iff.2 ⟨dir ++ [name], ?_, content?_eq_some.2 hnew, hc⟩
    exact resolve_target hp hk rfl fun dir' name' he ↦ by
      obtain ⟨rfl, rfl⟩ := Place.vacant.inj he
      exact ⟨c, hnew⟩

end FileSystem

end LiteralPatch
