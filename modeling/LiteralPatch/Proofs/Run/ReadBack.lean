import LiteralPatch.Proofs.FileSystem.Written
import LiteralPatch.Proofs.FirstCharacter
import LiteralPatch.Proofs.Run.Turn
import Mathlib

namespace LiteralPatch

namespace FileSystem

structure ReadsAs (fs : FileSystem) (path : Text) (b : Bytes) : Prop where
  text_iff : (∃ s, fs.readSource path = .ok s) ↔ ByteArray.IsValidUTF8 ⟨b.toArray⟩
  marked_iff : ∀ s, fs.readSource path = .ok s →
    (s.marked = true ↔ SourceText.byteOrderMark <+: b)
  -- Just one mark is taken off, whatever the text behind it starts with.
  one_mark : ∀ t, b = SourceText.byteOrderMark ++ Utf8.encode t →
    fs.readSource path = .ok ⟨t, true⟩
  encode_eq : ∀ s, fs.readSource path = .ok s → s.encode = b
  restored : ∀ s, fs.readSource path = .ok s → fs.writeSource path s = .ok fs

structure Holds (fs : FileSystem) (path : Text) (s : SourceText) : Prop where
  bytes_eq : fs.read path = .ok s.encode
  same : s.marked = true ∨ s.text.head? ≠ some '\ufeff' → fs.readSource path = .ok s
  -- The first character becomes the mark, and makes the same bytes.
  mark : ∀ t, s = ⟨'\ufeff' :: t, false⟩ →
    fs.readSource path = .ok ⟨t, true⟩ ∧ SourceText.encode ⟨t, true⟩ = s.encode

variable {fs fs' : FileSystem} {path : Text} {b : Bytes} {s : SourceText}

theorem readSource_of_read (hr : fs.read path = .ok b) :
    fs.readSource path = .ok s ↔ SourceText.decode? b = some s := by
  rw [Settings.readSource_eq_ok_iff, hr]
  simp

theorem writeSource_eq_ok_iff :
    fs.writeSource path s = .ok fs' ↔ fs.write path s.encode = .ok fs' := by
  rw [writeSource]
  cases fs.write path s.encode <;> simp

theorem readsAs_of_read (hr : fs.read path = .ok b) : fs.ReadsAs path b where
  text_iff := by
    simp only [readSource_of_read hr]
    rw [← Option.isSome_iff_exists, SourceText.isSome_decode?, Utf8.isSome_decode?_iff]
  marked_iff _ hs := SourceText.marked_iff_of_decode? ((readSource_of_read hr).1 hs)
  one_mark t ht := by
    rw [readSource_of_read hr, ht, SourceText.decode?_mark, Utf8.decode?_encode]
    rfl
  encode_eq _ hs := SourceText.encode_of_decode? ((readSource_of_read hr).1 hs)
  restored s hs := by
    have he : s.encode = b := SourceText.encode_of_decode? ((readSource_of_read hr).1 hs)
    have hw : fs.write path b = .ok (fs.amend path id) := write_eq_amend hr rfl
    rw [writeSource_eq_ok_iff, he, hw, amend_eq_self hr rfl]

theorem holds_of_writeSource (hw : fs.writeSource path s = .ok fs') : fs'.Holds path s := by
  have hr : fs'.read path = .ok s.encode := read_write (writeSource_eq_ok_iff.1 hw)
  constructor
  case bytes_eq => exact hr
  case same =>
    intro hs
    refine (readSource_of_read hr).2 (SourceText.decode?_encode fun ha ↦ ?_)
    rcases hs with hs | hs
    · exact Bool.false_ne_true (ha.1.symm.trans hs)
    · exact hs ha.2
  case mark =>
    rintro t rfl
    rw [SourceText.encode_ambiguous] at hr ⊢
    refine ⟨(readSource_of_read hr).2 (SourceText.decode?_encode fun ha ↦ ?_), rfl⟩
    cases ha.1

theorem writeSource_of_isFile (hf : fs.isFile path = true) (s : SourceText) :
    (∃ fs', fs.writeSource path s = .ok fs') ∨
      ∃ fault, fs.readSource path = .error (.readFailed path fault) ∧
        fs.writeSource path s = .error (.writeFailed path fault) := by
  obtain ⟨loc, b, hl, hb⟩ := isFile_iff.1 hf
  cases hc : fs.host.closed? loc with
  | none =>
    have hr : fs.read path = .ok b := read_eq_ok_iff.2 ⟨loc, hl, hb, hc⟩
    exact .inl ⟨_, writeSource_eq_ok_iff.2 (write_eq_amend (f := fun _ ↦ s.encode) hr rfl)⟩
  | some fault =>
    refine .inr ⟨fault, Settings.readSource_eq_error_iff.2
      (.inl ⟨fault, read_of_closed hl hb hc, rfl⟩), ?_⟩
    rw [writeSource, write_of_closed hl hb hc]

/-- Bytes are read as a text exactly if they are UTF-8, and that text is written as the same bytes.
What is written into a file is read back, unless it has no mark and starts with the character of
one; and a file can be written unless it does not even open to be read. -/
theorem source_readBack (fs : FileSystem) (path : Text) :
    (∀ b, fs.read path = .ok b → fs.ReadsAs path b) ∧
      (∀ s, fs.isFile path = true → (∃ fs', fs.writeSource path s = .ok fs') ∨
        ∃ fault, fs.readSource path = .error (.readFailed path fault) ∧
          fs.writeSource path s = .error (.writeFailed path fault)) ∧
      ∀ s fs', fs.writeSource path s = .ok fs' → fs'.Holds path s :=
  ⟨fun _ ↦ readsAs_of_read, fun s hf ↦ writeSource_of_isFile hf s,
    fun _ _ ↦ holds_of_writeSource⟩

def twoMarks : FileSystem where
  top := .dir [(['a'], .file (SourceText.byteOrderMark ++ SourceText.byteOrderMark ++ [0x62]))]
  cwd := []

theorem source_readBack_twoMarks :
    twoMarks.readSource ['a'] = .ok ⟨['\ufeff', 'b'], true⟩ ∧
      twoMarks.writeSource ['a'] ⟨['\ufeff', 'b'], true⟩ = .ok twoMarks ∧
      ∃ fs', twoMarks.writeSource ['a'] ⟨['\ufeff', 'b'], false⟩ = .ok fs' ∧
        fs'.readSource ['a'] = .ok ⟨['b'], true⟩ := by
  obtain ⟨hread, hwrite, hholds⟩ := source_readBack twoMarks ['a']
  have hs : twoMarks.readSource ['a'] = .ok ⟨['\ufeff', 'b'], true⟩ := by cbv
  have hr : twoMarks.read ['a'] =
      .ok (SourceText.byteOrderMark ++ SourceText.byteOrderMark ++ [0x62]) := by cbv
  obtain ⟨fs', hfs'⟩ := (hwrite ⟨['\ufeff', 'b'], false⟩ (by cbv)).resolve_right
    (by rw [hs]; rintro ⟨fault, he, -⟩; cases he)
  exact ⟨hs, (hread _ hr).restored _ hs, fs', hfs', ((hholds _ _ hfs').mark _ rfl).1⟩

end FileSystem

namespace Settings

variable {fs : FileSystem} {path : Text} {s : SourceText}

/-- The text that a turn writes into a file is what the next run reads, with a mark if there was
one; for no edit touches the front of a text. -/
theorem readSource_patchFile (cfg : Settings) (kind : FileKind)
    (h : fs.readSource path = .ok s) :
    (∃ o, (cfg.patchFile fs path kind).outcome = .ok o ∧
      (o.written = true ↔ (cfg.patch kind s.text).content ≠ s.text ∧ cfg.dryRun = false)) ∧
    (cfg.dryRun = false → (cfg.patchFile fs path kind).files.readSource path =
      .ok { s with text := (cfg.patch kind s.text).content }) ∧
    (∀ c t, ∃ t', (cfg.patch kind (c :: t)).content = c :: t') ∧
    (cfg.patch kind []).content = [] := by
  obtain ⟨b, hr, hs⟩ := readSource_eq_ok_iff.1 h
  rw [patchFile_of_decode? hr hs]
  refine ⟨⟨_, rfl, by simp [outcomeOf]⟩, fun hd ↦ ?_, cfg.exists_patch_cons kind,
    cfg.patch_nil kind⟩
  have hread : (cfg.edit fs ⟨path, kind⟩).read path = .ok (cfg.rewritten kind b) :=
    FileSystem.read_amend hr _
  have hfront : ¬SourceText.Ambiguous { s with text := (cfg.patch kind s.text).content } := by
    rintro ⟨hm, ht⟩
    exact SourceText.not_ambiguous_of_decode? hs ⟨hm, (cfg.head?_patch kind s.text) ▸ ht⟩
  rw [rewritten_of_decode? hs] at hread
  rw [filesAfter_eq_foldl hd]
  exact (FileSystem.readSource_of_read hread).2 (SourceText.decode?_encode hfront)

def oneMark : FileSystem where
  top := .dir [(['a'], .file (SourceText.byteOrderMark ++ [0x22, 0x61, 0x22]))]
  cwd := []

def insertMark : Settings := { root := ['/'], whitelist := ⟨['\ufeff']⟩ }

theorem readSource_patchFile_oneMark :
    oneMark.readSource ['a'] = .ok ⟨['"', 'a', '"'], true⟩ ∧
      (insertMark.patchFile oneMark ['a'] .generic).files.readSource ['a'] =
        .ok ⟨['"', 'a', '\ufeff', '"'], true⟩ := by
  have hs : oneMark.readSource ['a'] = .ok ⟨['"', 'a', '"'], true⟩ := by cbv
  have hp : (insertMark.patch .generic ['"', 'a', '"']).content = ['"', 'a', '\ufeff', '"'] := by
    cbv
  have h := (readSource_patchFile insertMark .generic hs).2.1 rfl
  rw [hp] at h
  exact ⟨hs, h⟩

end Settings

end LiteralPatch
