import LiteralPatch.FileSystem.Walk
import LiteralPatch.Proofs.FileSystem.Leads

namespace LiteralPatch

namespace FileSystem

def skeleton (fs : FileSystem) : FileSystem := { fs with top := fs.top.skeleton }

def content? (fs : FileSystem) (loc : Location) : Option Bytes :=
  (fs.top.at? loc).bind Node.content?

def amend (fs : FileSystem) (path : Text) (f : Bytes → Bytes) : FileSystem :=
  match fs.locate path with
  | .ok loc =>
    match fs.content? loc with
    | some content => fs.setFile loc (f content)
    | none => fs
  | .error _ => fs

variable {fs fs' : FileSystem} {creating : Bool} {links : Nat} {here loc : Location}
  {steps : List Text} {path : Text} {b c : Bytes} {f : Bytes → Bytes}

theorem content?_eq_some : fs.content? loc = some b ↔ fs.top.at? loc = some (.file b) := by
  simp [content?, Option.bind_eq_some_iff, Node.content?_eq_some]

theorem at?_skeleton_top (fs : FileSystem) (loc : Location) :
    fs.skeleton.top.at? loc = (fs.top.at? loc).map Node.skeleton :=
  Node.at?_skeleton fs.top loc

theorem any_isDir_skeleton (fs : FileSystem) (loc : Location) :
    (fs.skeleton.top.at? loc).any Node.isDir = (fs.top.at? loc).any Node.isDir := by
  rw [at?_skeleton_top]
  cases fs.top.at? loc <;> simp

theorem follow_skeleton (fs : FileSystem) (creating : Bool) (links : Nat) (here : Location)
    (steps : List Text) :
    fs.skeleton.follow creating links here steps = fs.follow creating links here steps := by
  -- Every branch asks whether a node is there, and whether it is a directory or a link.
  fun_induction fs.follow creating links here steps with
  | case1 links here => rw [follow]
  | case2 links here step rest hd =>
    rw [follow, any_isDir_skeleton, if_pos hd]
  | case3 links here step rest hd hs ih =>
    rw [follow, any_isDir_skeleton, if_neg hd, if_pos hs, ih]
  | case4 links here rest hd hs ih =>
    rw [follow, any_isDir_skeleton, if_neg hd, if_neg hs, if_pos rfl, ih]
  | case5 links here step rest hd hs hu hc =>
    rw [follow, any_isDir_skeleton, if_neg hd, if_neg hs, if_neg hu, if_pos hc]
  | case6 links here step rest hd hs hu hc hl =>
    rw [follow, any_isDir_skeleton, if_neg hd, if_neg hs, if_neg hu, if_neg hc, if_pos hl]
  | case7 links here step rest hd hs hu hc hl hn hr =>
    rw [follow, any_isDir_skeleton, if_neg hd, if_neg hs, if_neg hu, if_neg hc, if_neg hl,
      at?_skeleton_top, hn]
    exact if_pos hr
  | case8 links here step rest hd hs hu hc hl hn hr =>
    rw [follow, any_isDir_skeleton, if_neg hd, if_neg hs, if_neg hu, if_neg hc, if_neg hl,
      at?_skeleton_top, hn]
    exact if_neg hr
  | case9 here step rest hd hs hu hc hl target ht =>
    rw [follow, any_isDir_skeleton, if_neg hd, if_neg hs, if_neg hu, if_neg hc, if_neg hl,
      at?_skeleton_top, ht]
    rfl
  | case10 here step rest hd hs hu hc hl target ht links ih =>
    rw [follow, any_isDir_skeleton, if_neg hd, if_neg hs, if_neg hu, if_neg hc, if_neg hl,
      at?_skeleton_top, ht]
    exact ih
  | case11 links here step rest hd hs hu hc hl m hm ht ih =>
    rw [follow, any_isDir_skeleton, if_neg hd, if_neg hs, if_neg hu, if_neg hc, if_neg hl,
      at?_skeleton_top, ht]
    cases m with
    | file content => exact ih
    | link target => exact (hm target rfl).elim
    | dir entries => exact ih

theorem locate_skeleton (fs : FileSystem) (path : Text) :
    fs.skeleton.locate path = fs.locate path := by
  have hr (creating : Bool) : fs.skeleton.resolve creating path = fs.resolve creating path := by
    simp only [resolve, follow_skeleton]
    rfl
  rw [locate, locate, hr]

theorem node?_skeleton (fs : FileSystem) (path : Text) :
    fs.skeleton.node? path = (fs.node? path).map Node.skeleton := by
  rw [node?, node?, locate_skeleton]
  cases fs.locate path with
  | ok loc => exact at?_skeleton_top fs loc
  | error fault => rfl

theorem isDir_skeleton (fs : FileSystem) (path : Text) :
    fs.skeleton.isDir path = fs.isDir path := by
  rw [isDir, isDir, node?_skeleton]
  cases fs.node? path <;> simp

theorem isFile_skeleton (fs : FileSystem) (path : Text) :
    fs.skeleton.isFile path = fs.isFile path := by
  rw [isFile, isFile, node?_skeleton]
  cases fs.node? path <;> simp

mutual

theorem visits_skeleton (host : Host) (before : ListingOrder) (here : Location) (path : Text)
    (depth : Nat) (n : Node) :
    n.skeleton.visits host before here path depth = n.visits host before here path depth := by
  cases n with
  | file content => rfl
  | link target => rfl
  | dir entries =>
    rw [Node.skeleton, Node.visits, Node.visits, visitsBelow_skeletonBelow]

theorem visitsBelow_skeletonBelow (host : Host) (before : ListingOrder) (here : Location)
    (path : Text) (depth : Nat) (entries : List (Text × Node)) :
    visitsBelow host before here path depth (Node.skeletonBelow entries) =
      visitsBelow host before here path depth entries := by
  cases entries with
  | nil => rfl
  | cons e entries =>
    obtain ⟨name, n⟩ := e
    rw [Node.skeletonBelow, visitsBelow, visitsBelow, visits_skeleton, visitsBelow_skeletonBelow]

end

theorem walk_skeleton (fs : FileSystem) (before : ListingOrder) (root : Text) :
    fs.skeleton.walk before root = fs.walk before root := by
  rw [walk, walk, locate_skeleton]
  cases fs.locate root with
  | error fault => rfl
  | ok here =>
    simp only [at?_skeleton_top]
    cases fs.top.at? here with
    | none => rfl
    | some n => exact visits_skeleton fs.host before here root 0 n

section Congr

variable (h : fs'.skeleton = fs.skeleton)

include h

theorem locate_congr (path : Text) : fs'.locate path = fs.locate path := by
  rw [← locate_skeleton, h, locate_skeleton]

theorem isDir_congr (path : Text) : fs'.isDir path = fs.isDir path := by
  rw [← isDir_skeleton, h, isDir_skeleton]

theorem isFile_congr (path : Text) : fs'.isFile path = fs.isFile path := by
  rw [← isFile_skeleton, h, isFile_skeleton]

theorem walk_congr (before : ListingOrder) (root : Text) :
    fs'.walk before root = fs.walk before root := by
  rw [← walk_skeleton, h, walk_skeleton]

theorem host_congr : fs'.host = fs.host := by
  have hs : fs'.skeleton.host = fs.skeleton.host := by rw [h]
  exact hs

end Congr

theorem openAt_eq_ok_iff {n : Node} :
    fs.openAt loc = .ok n ↔ fs.top.at? loc = some n ∧ fs.host.closed? loc = none := by
  rw [openAt]
  cases fs.top.at? loc <;> cases fs.host.closed? loc <;> simp

theorem read_eq_ok_iff :
    fs.read path = .ok b ↔
      ∃ loc, fs.locate path = .ok loc ∧ fs.content? loc = some b ∧
        fs.host.closed? loc = none := by
  simp only [content?_eq_some, ← openAt_eq_ok_iff]
  rw [read]
  cases fs.locate path with
  | error fault => simp
  | ok loc =>
    cases hn : fs.openAt loc with
    | error fault => simp [hn]
    | ok n => cases n <;> simp [hn]

theorem isFile_iff :
    fs.isFile path = true ↔ ∃ loc b, fs.locate path = .ok loc ∧ fs.content? loc = some b := by
  simp only [content?_eq_some]
  rw [isFile, node?]
  cases fs.locate path with
  | error fault => simp
  | ok loc =>
    cases hn : fs.top.at? loc with
    | none => simp [hn]
    | some n => cases n <;> simp [hn, Node.isFile]

theorem isFile_of_read (hr : fs.read path = .ok b) : fs.isFile path = true := by
  obtain ⟨loc, hl, hb, -⟩ := read_eq_ok_iff.1 hr
  exact isFile_iff.2 ⟨loc, b, hl, hb⟩

theorem read_of_closed {fault : Fault} (hl : fs.locate path = .ok loc)
    (hb : fs.content? loc = some b) (hc : fs.host.closed? loc = some fault) :
    fs.read path = .error fault := by
  rw [read, hl]
  simp [openAt, content?_eq_some.1 hb, hc]

theorem read_skeleton (hf : fs.isFile path = false) : fs.skeleton.read path = fs.read path := by
  rw [read, read, locate_skeleton]
  cases hl : fs.locate path with
  | error fault => rfl
  | ok loc =>
    have hopen : fs.skeleton.openAt loc = (fs.openAt loc).map Node.skeleton := by
      rw [openAt, openAt, at?_skeleton_top, show fs.skeleton.host = fs.host from rfl]
      cases fs.top.at? loc with
      | none => rfl
      | some n => cases fs.host.closed? loc <;> rfl
    cases ho : fs.openAt loc with
    | error fault => simp [hopen, ho, Except.map]
    | ok n =>
      cases n with
      | file b =>
        have hb := content?_eq_some.2 (openAt_eq_ok_iff.1 ho).1
        rw [isFile_iff.2 ⟨loc, b, hl, hb⟩] at hf
        cases hf
      | link target => simp [hopen, ho, Except.map, Node.skeleton]
      | dir entries => simp [hopen, ho, Except.map, Node.skeleton]

/-- A file that is not read does not open. -/
theorem read_eq_error_iff {fault : Fault} (hf : fs.isFile path = true) :
    fs.read path = .error fault ↔
      ∃ loc, fs.locate path = .ok loc ∧ fs.host.closed? loc = some fault := by
  obtain ⟨loc, b, hl, hb⟩ := isFile_iff.1 hf
  cases hc : fs.host.closed? loc with
  | none => simp [read_eq_ok_iff.2 ⟨loc, hl, hb, hc⟩, hl, hc]
  | some fault => simp [read_of_closed hl hb hc, hl, hc]

theorem amend_of_content? (hl : fs.locate path = .ok loc) (hb : fs.content? loc = some b)
    (f : Bytes → Bytes) : fs.amend path f = fs.setFile loc (f b) := by
  rw [amend, hl]
  simp only [hb]

theorem amend_cases (fs : FileSystem) (path : Text) (f : Bytes → Bytes) :
    fs.amend path f = fs ∨ ∃ loc b, fs.locate path = .ok loc ∧ fs.content? loc = some b ∧
      fs.amend path f = fs.setFile loc (f b) := by
  rw [amend]
  cases hl : fs.locate path with
  | error fault => exact .inl rfl
  | ok loc =>
    cases hb : fs.content? loc with
    | none =>
      refine .inl ?_
      simp only [hb]
    | some b =>
      refine .inr ⟨loc, b, rfl, hb, ?_⟩
      simp only [hb]

theorem content?_amend (hl : fs.locate path = .ok loc) (f : Bytes → Bytes) :
    (fs.amend path f).content? loc = (fs.content? loc).map f := by
  cases hb : fs.content? loc with
  | none =>
    rw [amend, hl]
    simp only [hb, Option.map_none]
  | some b =>
    rw [amend_of_content? hl hb]
    exact (Node.content?_at?_put (content?_eq_some.1 hb) loc).trans (if_pos rfl)

theorem content?_amend_of_ne (hl : fs.locate path ≠ .ok loc) (f : Bytes → Bytes) :
    (fs.amend path f).content? loc = fs.content? loc := by
  rcases fs.amend_cases path f with h | ⟨there, b, hto, hb, h⟩
  · rw [h]
  · have hne : loc ≠ there := fun he ↦ hl (he ▸ hto)
    rw [h]
    exact (Node.content?_at?_put (content?_eq_some.1 hb) loc).trans (if_neg hne)

theorem skeleton_amend (fs : FileSystem) (path : Text) (f : Bytes → Bytes) :
    (fs.amend path f).skeleton = fs.skeleton := by
  rcases fs.amend_cases path f with h | ⟨loc, b, -, hb, h⟩
  · rw [h]
  · have hput : (fs.top.put loc (.file (f b))).skeleton = fs.top.skeleton :=
      Node.skeleton_put (content?_eq_some.1 hb) rfl
    rw [h]
    exact congrArg (fun top ↦ { fs with top }) hput

theorem amend_eq_self (hr : fs.read path = .ok b) (hf : f b = b) : fs.amend path f = fs := by
  obtain ⟨loc, hl, hb, -⟩ := read_eq_ok_iff.1 hr
  rw [amend_of_content? hl hb, hf, setFile, Node.put_eq_self (content?_eq_some.1 hb)]

theorem amend_of_not_isFile (h : fs.isFile path = false) (f : Bytes → Bytes) :
    fs.amend path f = fs := by
  rcases fs.amend_cases path f with he | ⟨loc, b, hl, hb, -⟩
  · exact he
  · rw [isFile_iff.2 ⟨loc, b, hl, hb⟩] at h
    cases h

theorem amend_amend_comm {path' : Text} (h : fs.locate path ≠ fs.locate path')
    (f g : Bytes → Bytes) :
    (fs.amend path f).amend path' g = (fs.amend path' g).amend path f := by
  have hf : (fs.amend path' g).isFile path = fs.isFile path :=
    isFile_congr (fs.skeleton_amend path' g) path
  have hg : (fs.amend path f).isFile path' = fs.isFile path' :=
    isFile_congr (fs.skeleton_amend path f) path'
  cases hp : fs.isFile path with
  | false => rw [amend_of_not_isFile hp, amend_of_not_isFile (hf.trans hp)]
  | true =>
    cases hp' : fs.isFile path' with
    | false => rw [amend_of_not_isFile hp', amend_of_not_isFile (hg.trans hp')]
    | true =>
      obtain ⟨loc, b, hl, hb⟩ := isFile_iff.1 hp
      obtain ⟨loc', b', hl', hb'⟩ := isFile_iff.1 hp'
      have hbehind : (fs.amend path f).content? loc' = some b' := by
        rw [content?_amend_of_ne (fun he ↦ h (he.trans hl'.symm)), hb']
      have hbehind' : (fs.amend path' g).content? loc = some b := by
        rw [content?_amend_of_ne (fun he ↦ h (hl.trans he.symm)), hb]
      have hto : (fs.amend path f).locate path' = .ok loc' :=
        (locate_congr (fs.skeleton_amend path f) path').trans hl'
      have hto' : (fs.amend path' g).locate path = .ok loc :=
        (locate_congr (fs.skeleton_amend path' g) path).trans hl
      rw [amend_of_content? hto hbehind, amend_of_content? hto' hbehind', amend_of_content? hl hb,
        amend_of_content? hl' hb']
      have hne : loc ≠ loc' := fun he ↦ h (by rw [hl, hl', he])
      exact congrArg (fun top ↦ { fs with top })
        (Node.put_put_comm (content?_eq_some.1 hb) (content?_eq_some.1 hb') hne)

theorem read_amend (hr : fs.read path = .ok b) (f : Bytes → Bytes) :
    (fs.amend path f).read path = .ok (f b) := by
  obtain ⟨loc, hl, hb, hc⟩ := read_eq_ok_iff.1 hr
  have hs := fs.skeleton_amend path f
  refine read_eq_ok_iff.2 ⟨loc, (locate_congr hs path).trans hl, ?_, (host_congr hs) ▸ hc⟩
  rw [content?_amend hl, hb, Option.map_some]

theorem not_dirAt_of_content? (hb : fs.content? loc = some b) : ¬fs.dirAt loc := by
  intro hd
  rw [dirAt, content?_eq_some.1 hb] at hd
  cases hd

/-- What was read can be written, and the same file changes. -/
theorem write_eq_amend (hr : fs.read path = .ok b) (hf : f b = c) :
    fs.write path c = .ok (fs.amend path f) := by
  obtain ⟨loc, hl, hb, hc⟩ := read_eq_ok_iff.1 hr
  rw [write, resolve_creating hl (not_dirAt_of_content? hb), amend_of_content? hl hb, hf]
  simp [Place.target, content?_eq_some.1 hb, hc, Node.isDir]

theorem write_of_closed {fault : Fault} (hl : fs.locate path = .ok loc)
    (hb : fs.content? loc = some b) (hc : fs.host.closed? loc = some fault) (c : Bytes) :
    fs.write path c = .error fault := by
  rw [write, resolve_creating hl (not_dirAt_of_content? hb)]
  simp [Place.target, content?_eq_some.1 hb, hc, Node.isDir]

end FileSystem

end LiteralPatch
