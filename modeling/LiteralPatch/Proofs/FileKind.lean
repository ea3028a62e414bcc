import LiteralPatch.Proofs.SourceText
import LiteralPatch.Proofs.Span
import LiteralPatch.Settings

namespace LiteralPatch

namespace Path

def Silent (s : Text) : Prop := s = [] ∨ s = ['.']

/-- What can stand behind a name without a change to it. -/
inductive Trail : Text → Prop
  | nil : Trail []
  | slash {t : Text} : Trail t → Trail ('/' :: t)
  | dot {t : Text} : Trail t → Trail ('/' :: '.' :: t)

variable {dir name path trail ext : Text} {front back : List Text}

theorem steps_append_slash (a b : Text) : steps (a ++ '/' :: b) = steps a ++ steps b := by
  rw [steps, List.splitOn_append_cons_self, List.filter_append]
  rfl

theorem steps_of_not_mem (hs : '/' ∉ name) (hn : ¬Silent name) : steps name = [name] := by
  have hp : decide (name ≠ [] ∧ name ≠ ['.']) = true := decide_eq_true (not_or.1 hn)
  rw [steps, List.splitOn_eq_singleton hs]
  exact List.filter_cons_of_pos hp

theorem filter_silent (h : ∀ s ∈ back, Silent s) :
    (back.filter fun s ↦ s ≠ [] ∧ s ≠ ['.']) = [] := by
  refine List.filter_eq_nil_iff.2 fun s hs hp ↦ ?_
  have hn : ¬Silent s := not_or.2 (of_decide_eq_true hp)
  exact hn (h s hs)

theorem Trail.steps_append (ht : Trail trail) (a : Text) : steps (a ++ trail) = steps a := by
  induction ht generalizing a with
  | nil => rw [List.append_nil]
  | @slash t _ ih =>
    have ht : steps t = [] := ih []
    rw [steps_append_slash, ht, List.append_nil]
  | @dot t _ ih =>
    have ht : steps ('.' :: t) = [] := ih ['.']
    rw [steps_append_slash, ht, List.append_nil]

theorem fileName?_append (hd : dir = [] ∨ dir.getLast? = some '/') (hs : '/' ∉ name)
    (hn : ¬Silent name) (hdots : name ≠ ['.', '.']) (ht : Trail trail) :
    fileName? (dir ++ name ++ trail) = some name := by
  have hsteps : ∃ front, steps (dir ++ name) = front ++ [name] := by
    rcases hd with rfl | hd
    · exact ⟨[], steps_of_not_mem hs hn⟩
    · obtain ⟨d, rfl⟩ := List.getLast?_eq_some_iff.1 hd
      refine ⟨steps d, ?_⟩
      rw [List.append_assoc, List.singleton_append, steps_append_slash, steps_of_not_mem hs hn]
  obtain ⟨front, hf⟩ := hsteps
  rw [fileName?, ht.steps_append, hf, List.getLast?_concat]
  exact Option.filter_some_pos (decide_eq_true hdots)

theorem fileName?_of_silent (h : ∀ s ∈ path.splitOn '/', Silent s) : fileName? path = none := by
  rw [fileName?, steps, filter_silent h]
  rfl

theorem fileName?_of_dots (hp : path.splitOn '/' = front ++ ['.', '.'] :: back)
    (h : ∀ s ∈ back, Silent s) : fileName? path = none := by
  have hdots : ((['.', '.'] :: back).filter fun s ↦ s ≠ [] ∧ s ≠ ['.']) = [['.', '.']] :=
    (List.filter_cons_of_pos rfl).trans (congrArg _ (filter_silent h))
  rw [fileName?, steps, hp, List.filter_append, hdots, List.getLast?_concat]
  rfl

theorem extension?_eq_some_iff : extension? name = some ext ↔
    '.' ∉ ext ∧ ∃ stem, stem ≠ [] ∧ name = stem ++ '.' :: ext := by
  constructor
  · intro h
    rw [extension?] at h
    split at h
    · next a b hspan =>
      obtain ⟨ha, hname⟩ := span_ne_eq_iff.1 hspan
      split at h
      · cases h
      · next hb =>
        obtain rfl := Option.some.inj h
        refine ⟨mt List.mem_reverse.1 ha, b.reverse, mt List.reverse_eq_nil_iff.1 hb, ?_⟩
        rw [← List.reverse_reverse name, hname, List.reverse_append, List.reverse_cons]
        simp
    · cases h
  · rintro ⟨hext, stem, hstem, rfl⟩
    have hspan : (stem ++ '.' :: ext).reverse.span (· ≠ '.') =
        (ext.reverse, '.' :: stem.reverse) :=
      span_ne_eq_iff.2 ⟨mt List.mem_reverse.1 hext, by simp⟩
    rw [extension?, hspan]
    simp [hstem]

end Path

namespace Settings

variable {cfg : Settings} {name path : Text}

def IsTarget (cfg : Settings) (name : Text) : Prop :=
  Utf8.encode name = Utf8.encode cfg.targetFile

/-- The name is something, a dot and the extension, byte for byte, and the extension has no dot. -/
def IsSource (cfg : Settings) (name : Text) : Prop :=
  '.' ∉ cfg.extension ∧
    ∃ stem, stem ≠ [] ∧ Utf8.encode name = Utf8.encode (stem ++ '.' :: cfg.extension)

inductive CallsFor (cfg : Settings) (name : Text) : Option FileKind → Prop
  | targeted : cfg.IsTarget name → CallsFor cfg name (some .targeted)
  | generic : ¬cfg.IsTarget name → cfg.IsSource name → CallsFor cfg name (some .generic)
  | neither : ¬cfg.IsTarget name → ¬cfg.IsSource name → CallsFor cfg name none

theorem isTarget_iff : cfg.IsTarget name ↔ name = cfg.targetFile :=
  Utf8.encode_injective.eq_iff

theorem isSource_iff : cfg.IsSource name ↔ Path.extension? name = some cfg.extension := by
  rw [Path.extension?_eq_some_iff, IsSource]
  simp only [Utf8.encode_injective.eq_iff]

theorem callsFor_of_fileName? (h : Path.fileName? path = some name) :
    cfg.CallsFor name (cfg.kind? path) := by
  rw [kind?, h, Option.bind_some]
  split
  · next ht => exact .targeted (isTarget_iff.2 ht)
  · next ht =>
    split
    · next hs => exact .generic (mt isTarget_iff.1 ht) (isSource_iff.2 hs)
    · next hs => exact .neither (mt isTarget_iff.1 ht) (mt isSource_iff.1 hs)

theorem kind?_of_fileName? (h : Path.fileName? path = none) : cfg.kind? path = none := by
  rw [kind?, h]
  rfl

/-- The last name of a path decides alone. A path without a name, or whose last step leads up, calls
for no edit. -/
theorem kind_of_lastName (cfg : Settings) :
    (∀ dir name trail : Text, dir = [] ∨ dir.getLast? = some '/' →
      name ≠ [] → name ≠ ['.'] → name ≠ ['.', '.'] → '/' ∉ name → Path.Trail trail →
      cfg.CallsFor name (cfg.kind? (dir ++ name ++ trail))) ∧
    (∀ path : Text, (∀ s ∈ path.splitOn '/', Path.Silent s) → cfg.kind? path = none) ∧
    ∀ (path : Text) (front back : List Text), path.splitOn '/' = front ++ ['.', '.'] :: back →
      (∀ s ∈ back, Path.Silent s) → cfg.kind? path = none := by
  refine ⟨?_, ?_, ?_⟩
  · intro dir name trail hd hne hdot hdots hs ht
    have hn : ¬Path.Silent name := not_or.2 ⟨hne, hdot⟩
    exact callsFor_of_fileName? (Path.fileName?_append hd hs hn hdots ht)
  · intro path h
    exact kind?_of_fileName? (Path.fileName?_of_silent h)
  · intro path front back hp h
    exact kind?_of_fileName? (Path.fileName?_of_dots hp h)

theorem kind_of_lastName_hidden :
    let cfg : Settings := { root := [], whitelist := ⟨[]⟩ }
    let dir := "../src//".toList
    let trail := ['/', '.', '/']
    (dir = [] ∨ dir.getLast? = some '/') ∧ Path.Trail trail ∧
      cfg.CallsFor ".a.cs".toList (cfg.kind? (dir ++ ".a.cs".toList ++ trail)) ∧
      cfg.kind? (dir ++ ".a.cs".toList ++ trail) = some .generic ∧
      cfg.CallsFor "a.CS".toList (cfg.kind? (dir ++ "a.CS".toList ++ trail)) ∧
      cfg.kind? (dir ++ "a.CS".toList ++ trail) = none ∧
      cfg.kind? [] = none ∧ cfg.kind? "a.cs/.././".toList = none := by
  intro cfg dir trail
  obtain ⟨hname, hsilent, hdots⟩ := kind_of_lastName cfg
  have hd : dir = [] ∨ dir.getLast? = some '/' := .inr (by decide)
  have ht : Path.Trail trail := .dot (.slash .nil)
  refine ⟨hd, ht, ?_, by decide, ?_, by decide, ?_, ?_⟩
  · exact hname dir _ trail hd (by decide) (by decide) (by decide) (by decide) ht
  · exact hname dir _ trail hd (by decide) (by decide) (by decide) (by decide) ht
  · exact hsilent [] (by simp [Path.Silent])
  · exact hdots _ ["a.cs".toList] [['.'], []] (by decide) (by simp [Path.Silent])

end Settings

end LiteralPatch
