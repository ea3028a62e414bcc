import Mathlib.Data.List.Forall2
import LiteralPatch.CommandLine.Summary

namespace LiteralPatch

inductive Json
  | text (s : Text)
  | number (n : Nat)
  | truth (b : Bool)
  | object (members : List (Text × Json))
  | array (items : List Json)

def Outcome.json (o : Outcome) : Json :=
  .object [("path".toList, .text o.path), ("kind".toList, .text (Summary.kindName o.kind).toList),
    ("hits".toList, .number o.hits), ("changed".toList, .truth o.changed),
    ("written".toList, .truth o.written)]

namespace Json

abbrev Space (s : Text) : Prop := s ⊆ [' ', '\t', '\n', '\r']

def escapes : List (Char × Char) :=
  [('"', '"'), ('\\', '\\'), ('/', '/'), ('b', '\x08'), ('f', '\x0c'), ('n', '\n'), ('r', '\r'),
    ('t', '\t')]

def hexDigits : List Char := "0123456789abcdef".toList

def hexValue (digits : Text) : Nat := digits.foldl (fun n d ↦ 16 * n + hexDigits.idxOf d) 0

/-- Ways to write a character of a string. -/
inductive Spells (c : Char) : Text → Prop
  | plain (hc : 0x20 ≤ c.toNat) (hq : c ≠ '"') (hb : c ≠ '\\') : Spells c [c]
  | short {l : Char} (h : (l, c) ∈ escapes) : Spells c ['\\', l]
  | code {digits : Text} (hl : digits.length = 4) (hd : digits ⊆ hexDigits)
      (hv : hexValue digits = c.toNat) : Spells c ('\\' :: 'u' :: digits)

inductive Writes : Json → Text → Prop
  | text {s : Text} {pieces : List Text} (h : List.Forall₂ Spells s pieces) :
      Writes (.text s) ('"' :: pieces.flatten ++ ['"'])
  | number (n : Nat) : Writes (.number n) (Nat.toDigits 10 n)
  | truth (b : Bool) : Writes (.truth b) (if b then "true" else "false").toList
  | object {members : List (Text × Json)} {names values : List Text} (space : Text)
      (hn : List.Forall₂ Writes (members.map fun m ↦ .text m.1) names)
      (hv : List.Forall₂ Writes (members.map Prod.snd) values) (hs : Space space) :
      Writes (.object members)
        ('\x7b' :: [','].intercalate (List.zipWith (fun name value ↦ name ++ ':' :: value)
          names values) ++ space ++ ['\x7d'])
  | array {items : List Json} {values : List Text} (space : Text)
      (hv : List.Forall₂ Writes items values) (hs : Space space) :
      Writes (.array items) ('[' :: [','].intercalate values ++ space ++ [']'])
  | spaced {v : Json} {before after s : Text} (hb : Space before) (ha : Space after)
      (h : Writes v s) : Writes v (before ++ s ++ after)

variable {s : Text}

def fourDigits (n : Nat) : Text :=
  List.replicate (4 - (Text.hexDigits n).length) '0' ++ Text.hexDigits n

theorem hexValue_fourDigits : ∀ n < 0x20, (fourDigits n).length = 4 ∧
    fourDigits n ⊆ hexDigits ∧ hexValue (fourDigits n) = n := by
  decide

theorem spells_escapedChar (c : Char) : Spells c (Summary.escapedChar c) := by
  unfold Summary.escapedChar
  split
  · exact .short (l := '"') (by decide)
  · exact .short (l := '\\') (by decide)
  · exact .short (l := 'b') (by decide)
  · exact .short (l := 'f') (by decide)
  · exact .short (l := 'n') (by decide)
  · exact .short (l := 'r') (by decide)
  · exact .short (l := 't') (by decide)
  · rename_i hq hb _ _ _ _ _
    split
    · rename_i hc
      obtain ⟨hl, hd, hv⟩ := hexValue_fourDigits c.toNat hc
      exact .code hl hd hv
    · rename_i hc
      exact .plain (Nat.le_of_not_lt hc) hq hb

theorem writes_plain (h : ∀ c ∈ s, 0x20 ≤ c.toNat ∧ c ≠ '"' ∧ c ≠ '\\') :
    Writes (.text s) ('"' :: s ++ ['"']) := by
  have hs : List.Forall₂ Spells s (s.map ([·])) :=
    List.forall₂_map_right_iff.2 (List.forall₂_same.2 fun c hc ↦
      .plain (h c hc).1 (h c hc).2.1 (h c hc).2.2)
  simpa [← List.flatMap_def] using Writes.text hs

theorem writes_jsonString (s : Text) : Writes (.text s) (Summary.jsonString s).toList := by
  rw [Summary.jsonString, String.toList_ofList, List.flatMap_def]
  refine .text (List.forall₂_map_right_iff.2 ?_)
  exact List.forall₂_same.2 fun c _ ↦ spells_escapedChar c

theorem writes_toString (b : Bool) : Writes (.truth b) (toString b).toList := by
  cases b
  · exact .truth false
  · exact .truth true

theorem writes_repr (n : Nat) : Writes (.number n) (toString n).toList := by
  rw [Nat.toString_eq_repr, Nat.repr, String.toList_ofList]
  exact .number n

theorem cons_intercalate {c d : Char} {ls : List Text} (h : ls ≠ []) :
    d :: [c, d].intercalate ls = [c].intercalate (ls.map (d :: ·)) := by
  induction ls with
  | nil => exact absurd rfl h
  | cons l ls ih =>
    cases ls with
    | nil => simp
    | cons l' ls =>
      rw [List.map_cons, List.map_cons, List.intercalate_cons_cons, List.intercalate_cons_cons,
        ← List.map_cons, ← ih (List.cons_ne_nil l' ls)]
      simp

theorem writes_members {members : List (Text × Json)} {fields : List (String × String)}
    (h : List.Forall₂ (fun m f ↦ Writes (.text m.1) ('"' :: f.1.toList ++ ['"']) ∧
      Writes m.2 f.2.toList) members fields) (hf : fields ≠ []) :
    Writes (.object members) ('\x7b' :: '\n' :: [',', '\n'].intercalate (fields.map fun f ↦
      "    \"".toList ++ f.1.toList ++ "\": ".toList ++ f.2.toList) ++ "\n  \x7d".toList) := by
  have hn : List.Forall₂ Writes (members.map fun m ↦ .text m.1)
      (fields.map fun f ↦ "\n    ".toList ++ ('"' :: f.1.toList ++ ['"']) ++ []) := by
    refine List.forall₂_map_left_iff.2 (List.forall₂_map_right_iff.2 (h.imp fun m f hmf ↦ ?_))
    exact .spaced (by decide) (by decide) hmf.1
  have hv : List.Forall₂ Writes (members.map Prod.snd)
      (fields.map fun f ↦ " ".toList ++ f.2.toList ++ []) := by
    refine List.forall₂_map_left_iff.2 (List.forall₂_map_right_iff.2 (h.imp fun m f hmf ↦ ?_))
    exact .spaced (by decide) (by decide) hmf.2
  have hw := Writes.object "\n  ".toList hn hv (by decide)
  rw [List.zipWith_map, List.zipWith_self] at hw
  rw [cons_intercalate (by simpa using hf), List.map_map]
  simpa [Function.comp_def] using hw

theorem writes_object (o : Outcome) : Writes o.json (Summary.object o).toList := by
  have h : (Summary.object o).toList = [' ', ' '] ++ ('\x7b' :: '\n' :: [',', '\n'].intercalate
      ((Summary.fields o).map fun f ↦ "    \"".toList ++ f.1.toList ++ "\": ".toList ++
        f.2.toList) ++ "\n  \x7d".toList) ++ [] := by
    simp [Summary.object, Function.comp_def]
    rfl
  rw [h]
  refine .spaced (by decide) (by decide) (writes_members ?_ (List.cons_ne_nil _ _))
  refine .cons ⟨writes_plain (s := "path".toList) (by simp), writes_jsonString _⟩ ?_
  refine .cons ⟨writes_plain (s := "kind".toList) (by simp), writes_jsonString _⟩ ?_
  refine .cons ⟨writes_plain (s := "hits".toList) (by simp), writes_repr _⟩ ?_
  refine .cons ⟨writes_plain (s := "changed".toList) (by simp), writes_toString _⟩ ?_
  refine .cons ⟨writes_plain (s := "written".toList) (by simp), writes_toString _⟩ .nil

theorem writes_render (os : List Outcome) :
    Writes (.array (os.map Outcome.json)) (Summary.render os).toList := by
  have hv : List.Forall₂ Writes (os.map Outcome.json)
      (os.map fun o ↦ ['\n'] ++ (Summary.object o).toList ++ []) :=
    List.forall₂_map_left_iff.2 (List.forall₂_map_right_iff.2 (List.forall₂_same.2 fun o _ ↦
      .spaced (by decide) (by decide) (writes_object o)))
  cases os with
  | nil => exact .array [] hv (by decide)
  | cons o os =>
    have hw := Writes.array ['\n'] hv (by decide)
    have hmap : ((o :: os).map fun o ↦ ['\n'] ++ (Summary.object o).toList ++ []) =
        ((o :: os).map fun o ↦ (Summary.object o).toList).map ('\n' :: ·) := by
      simp
    rw [hmap, ← cons_intercalate (by simp)] at hw
    simpa [Summary.render, Function.comp_def] using hw

end Json

end LiteralPatch
