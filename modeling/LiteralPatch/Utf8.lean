import LiteralPatch.Text

namespace LiteralPatch

abbrev Bytes := List UInt8

namespace Utf8

def encode (s : Text) : Bytes := (String.ofList s).toByteArray.data.toList

def decode? (b : Bytes) : Option Text := (String.fromUTF8? ⟨b.toArray⟩).map String.toList

def size (s : Text) : Nat := s.foldr (fun c n ↦ c.utf8Size + n) 0

theorem decode?_eq_some_iff {b : Bytes} {s : Text} : decode? b = some s ↔ encode s = b := by
  rw [decode?, Option.map_eq_some_iff, encode]
  constructor
  · rintro ⟨t, ht, rfl⟩
    rw [String.fromUTF8?] at ht
    split at ht
    · obtain rfl := Option.some.inj ht
      simp [String.fromUTF8]
    · simp at ht
  · rintro rfl
    exact ⟨String.ofList s, dif_pos (String.ofList s).isValidUTF8, String.toList_ofList⟩

@[simp] theorem decode?_encode (s : Text) : decode? (encode s) = some s :=
  decode?_eq_some_iff.2 rfl

end Utf8

end LiteralPatch
