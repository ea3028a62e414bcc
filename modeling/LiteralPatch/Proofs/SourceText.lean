import LiteralPatch.SourceText

namespace LiteralPatch

namespace Utf8

theorem encode_cons (c : Char) (s : Text) :
    encode (c :: s) = String.utf8EncodeChar c ++ encode s := by
  simp [encode, List.utf8Encode]

theorem encodeChar_append_inj {c d : Char} {a b : Bytes}
    (h : String.utf8EncodeChar c ++ a = String.utf8EncodeChar d ++ b) : c = d ∧ a = b := by
  have hc := ByteArray.utf8DecodeChar?_utf8EncodeChar_append (b := a.toByteArray) (c := c)
  have hd := ByteArray.utf8DecodeChar?_utf8EncodeChar_append (b := b.toByteArray) (c := d)
  rw [← List.toByteArray_append, h, List.toByteArray_append, hd] at hc
  obtain rfl := Option.some.inj hc
  exact ⟨rfl, List.append_cancel_left h⟩

theorem decode?_encodeChar_append (c : Char) (b : Bytes) :
    decode? (String.utf8EncodeChar c ++ b) = (decode? b).map (c :: ·) := by
  refine Option.ext fun s ↦ ?_
  rw [decode?_eq_some_iff, Option.map_eq_some_iff]
  constructor
  · intro h
    cases s with
    | nil =>
      have hnil : String.utf8EncodeChar c = [] := (List.append_eq_nil_iff.1 h.symm).1
      exact absurd hnil String.utf8EncodeChar_ne_nil
    | cons d s =>
      rw [encode_cons] at h
      obtain ⟨rfl, rfl⟩ := encodeChar_append_inj h
      exact ⟨s, decode?_encode s, rfl⟩
  · rintro ⟨t, ht, rfl⟩
    rw [encode_cons, decode?_eq_some_iff.1 ht]

theorem encode_append (s t : Text) : encode (s ++ t) = encode s ++ encode t := by
  induction s with
  | nil => rfl
  | cons c s ih => rw [List.cons_append, encode_cons, encode_cons, ih, List.append_assoc]

theorem encodeChar_newline : String.utf8EncodeChar '\n' = [0x0a] := by decide

theorem le_of_mem_encodeChar {c : Char} {x : UInt8} (hc : 128 ≤ c.val.toNat)
    (hx : x ∈ String.utf8EncodeChar c) : 128 ≤ x.toNat := by
  rw [String.utf8EncodeChar, if_neg (by omega)] at hx
  split at hx
  · simp only [List.mem_cons, List.not_mem_nil, or_false] at hx
    rcases hx with rfl | rfl <;> simp <;> omega
  · split at hx
    · simp only [List.mem_cons, List.not_mem_nil, or_false] at hx
      rcases hx with rfl | rfl | rfl <;> simp <;> omega
    · simp only [List.mem_cons, List.not_mem_nil, or_false] at hx
      rcases hx with rfl | rfl | rfl | rfl <;> simp <;> omega

theorem newline_mem_encodeChar_iff {c : Char} : 0x0a ∈ String.utf8EncodeChar c ↔ c = '\n' := by
  constructor
  · intro h
    rcases Nat.lt_or_ge c.val.toNat 128 with hc | hc
    · rw [String.utf8EncodeChar, if_pos (by omega), List.mem_singleton] at h
      have hn : c.val.toNat % 256 = 10 := by simpa using (congrArg UInt8.toNat h).symm
      have hv : c.val.toNat = '\n'.val.toNat := (Nat.mod_eq_of_lt (by omega)).symm.trans hn
      exact Char.ext (UInt32.toNat_inj.1 hv)
    · exact absurd (le_of_mem_encodeChar hc h) (by decide)
  · intro hc
    rw [hc, encodeChar_newline]
    exact List.mem_singleton_self _

theorem count_newline_encode (s : Text) : (encode s).count 0x0a = s.count '\n' := by
  induction s with
  | nil => rfl
  | cons c s ih =>
    rw [encode_cons, List.count_append, ih]
    by_cases hc : c = '\n'
    · rw [hc, List.count_cons_self, encodeChar_newline, List.count_singleton_self, Nat.add_comm]
    · rw [List.count_cons_of_ne hc, List.count_eq_zero.2 (mt newline_mem_encodeChar_iff.1 hc),
        Nat.zero_add]

theorem decode?_append_newline (b : Bytes) :
    decode? (b ++ [0x0a]) = (decode? b).map (· ++ ['\n']) := by
  refine Option.ext fun s ↦ ?_
  rw [decode?_eq_some_iff, Option.map_eq_some_iff]
  have hnil : encode [] = [] := by decide
  constructor
  · intro h
    rcases List.eq_nil_or_concat s with rfl | ⟨t, c, rfl⟩
    · exact absurd h.symm (by simp [hnil])
    · rw [List.concat_eq_append] at h ⊢
      rw [encode_append, encode_cons, hnil, List.append_nil] at h
      have hlast : 0x0a ∈ String.utf8EncodeChar c := by
        rcases List.eq_nil_or_concat (String.utf8EncodeChar c) with he | ⟨l, x, he⟩
        · exact absurd he String.utf8EncodeChar_ne_nil
        · rw [he, List.concat_eq_append, ← List.append_assoc] at h
          obtain rfl := List.singleton_inj.1 (List.append_inj_right' h rfl)
          rw [he, List.concat_eq_append]
          exact List.mem_append_right _ (List.mem_singleton_self _)
      obtain rfl := newline_mem_encodeChar_iff.1 hlast
      rw [encodeChar_newline] at h
      exact ⟨t, decode?_eq_some_iff.2 (List.append_cancel_right h), rfl⟩
  · rintro ⟨t, ht, rfl⟩
    rw [encode_append, decode?_eq_some_iff.1 ht, encode_cons, hnil, encodeChar_newline]
    rfl

theorem encode_injective : Function.Injective encode := by
  intro s t h
  have hd := congrArg decode? h
  rw [decode?_encode, decode?_encode] at hd
  exact Option.some.inj hd

theorem size_append (s t : Text) : size (s ++ t) = size s + size t := by
  induction s with
  | nil => rw [List.nil_append, size, size, List.foldr_nil, Nat.zero_add]
  | cons c s ih =>
    change c.utf8Size + size (s ++ t) = c.utf8Size + size s + size t
    rw [ih, Nat.add_assoc]

theorem length_encode (s : Text) : (encode s).length = size s := by
  induction s with
  | nil => rfl
  | cons c s ih =>
    rw [encode_cons, List.length_append, String.length_utf8EncodeChar, ih]
    rfl

theorem size_of_isAlpha {c : Char} (hc : c.isAlpha = true) : size [c] = 1 := by
  have hcase : c.isUpper = true ∨ c.isLower = true := Bool.or_eq_true_iff.1 hc
  have hv : c.val ≤ 127 := by
    rcases hcase with h | h
    · have hz : c.val ≤ 'Z'.val := (of_decide_eq_true h).2
      exact UInt32.le_trans hz (by decide)
    · have hz : c.val ≤ 'z'.val := of_decide_eq_true (Bool.and_eq_true_iff.1 h).2
      exact UInt32.le_trans hz (by decide)
  exact Char.utf8Size_eq_one_iff.2 hv

theorem take_size_encode (s t : Text) : (encode (s ++ t)).take (size s) = encode s := by
  rw [encode_append, ← length_encode, List.take_left]

theorem drop_size_encode (s t : Text) : (encode (s ++ t)).drop (size s) = encode t := by
  rw [encode_append, ← length_encode, List.drop_left]

def IsBoundary (s : Text) (offset : Nat) : Prop :=
  String.Pos.Raw.IsValid (String.ofList s) ⟨offset⟩

theorem isBoundary_size (s t : Text) : IsBoundary (s ++ t) (size s) := by
  have hsize : (String.ofList s).utf8ByteSize = size s := by
    rw [← length_encode]
    rfl
  refine String.Pos.Raw.isValid_iff_exists_append.2
    ⟨String.ofList s, String.ofList t, String.ofList_append, ?_⟩
  rw [← hsize]
  rfl

theorem isSome_decode?_iff (b : Bytes) :
    (decode? b).isSome = true ↔ ByteArray.IsValidUTF8 ⟨b.toArray⟩ := by
  rw [decode?, Option.isSome_map, String.fromUTF8?]
  split
  · next h => simpa using h
  · next h => simpa using h

end Utf8

namespace SourceText

variable {b : Bytes} {s : SourceText}

theorem encodeChar_mark : String.utf8EncodeChar '\ufeff' = byteOrderMark := by decide

theorem decode?_mark (body : Bytes) :
    decode? (byteOrderMark ++ body) = (Utf8.decode? body).map fun text ↦ ⟨text, true⟩ := rfl

theorem decode?_of_not_mark (h : ¬byteOrderMark <+: b) :
    decode? b = (Utf8.decode? b).map fun text ↦ ⟨text, false⟩ := by
  rw [decode?]
  rintro body rfl
  exact h ⟨body, rfl⟩

theorem encode_of_decode? (h : decode? b = some s) : s.encode = b := by
  by_cases hm : byteOrderMark <+: b
  · obtain ⟨body, rfl⟩ := hm
    rw [decode?_mark] at h
    obtain ⟨text, ht, rfl⟩ := Option.map_eq_some_iff.1 h
    exact congrArg (byteOrderMark ++ ·) (Utf8.decode?_eq_some_iff.1 ht)
  · rw [decode?_of_not_mark hm] at h
    obtain ⟨text, ht, rfl⟩ := Option.map_eq_some_iff.1 h
    exact Utf8.decode?_eq_some_iff.1 ht

theorem isSome_decode? (b : Bytes) : (decode? b).isSome = (Utf8.decode? b).isSome := by
  by_cases hm : byteOrderMark <+: b
  · obtain ⟨body, rfl⟩ := hm
    rw [decode?_mark, ← encodeChar_mark, Utf8.decode?_encodeChar_append, Option.isSome_map,
      Option.isSome_map]
  · rw [decode?_of_not_mark hm, Option.isSome_map]

theorem mark_prefix_encode_iff {t : Text} :
    byteOrderMark <+: Utf8.encode t ↔ t.head? = some '\ufeff' := by
  rw [← encodeChar_mark]
  constructor
  · rintro ⟨r, hr⟩
    cases t with
    | nil => exact absurd (List.append_eq_nil_iff.1 hr).1 String.utf8EncodeChar_ne_nil
    | cons c t =>
      rw [Utf8.encode_cons] at hr
      rw [List.head?_cons, (Utf8.encodeChar_append_inj hr).1]
  · intro h
    obtain ⟨t, rfl⟩ := List.head?_eq_some_iff.1 h
    exact ⟨Utf8.encode t, (Utf8.encode_cons _ t).symm⟩

/-- The text starts with the character of the mark, and no mark stands before it. -/
def Ambiguous (s : SourceText) : Prop := s.marked = false ∧ s.text.head? = some '\ufeff'

theorem decode?_encode (h : ¬s.Ambiguous) : decode? s.encode = some s := by
  obtain ⟨text, marked⟩ := s
  cases marked with
  | true =>
    rw [encode, if_pos rfl, decode?_mark, Utf8.decode?_encode]
    rfl
  | false =>
    have hm : ¬byteOrderMark <+: Utf8.encode text := fun hp ↦
      h ⟨rfl, mark_prefix_encode_iff.1 hp⟩
    rw [encode, if_neg Bool.false_ne_true, List.nil_append, decode?_of_not_mark hm,
      Utf8.decode?_encode]
    rfl

theorem encode_ambiguous (t : Text) : encode ⟨'\ufeff' :: t, false⟩ = encode ⟨t, true⟩ := by
  rw [encode, encode, if_neg Bool.false_ne_true, if_pos rfl, Utf8.encode_cons, encodeChar_mark]
  rfl

theorem marked_iff_of_decode? (h : decode? b = some s) : s.marked = true ↔ byteOrderMark <+: b := by
  by_cases hm : byteOrderMark <+: b
  · obtain ⟨body, rfl⟩ := hm
    rw [decode?_mark] at h
    obtain ⟨text, -, rfl⟩ := Option.map_eq_some_iff.1 h
    simp
  · rw [decode?_of_not_mark hm] at h
    obtain ⟨text, -, rfl⟩ := Option.map_eq_some_iff.1 h
    simp [hm]

theorem not_ambiguous_of_decode? (h : decode? b = some s) : ¬s.Ambiguous := by
  rintro ⟨hm, hs⟩
  have hb := encode_of_decode? h
  rw [encode, hm, if_neg (by decide), List.nil_append] at hb
  have hmark := (marked_iff_of_decode? h).2 (hb ▸ mark_prefix_encode_iff.2 hs)
  rw [hm] at hmark
  cases hmark

end SourceText

end LiteralPatch
