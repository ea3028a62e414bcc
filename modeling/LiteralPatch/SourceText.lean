import LiteralPatch.Utf8

namespace LiteralPatch

structure SourceText where
  text : Text
  marked : Bool
  deriving DecidableEq, Repr

namespace SourceText

def byteOrderMark : Bytes := [0xef, 0xbb, 0xbf]

def encode (s : SourceText) : Bytes :=
  (if s.marked then byteOrderMark else []) ++ Utf8.encode s.text

/-- Takes one byte-order mark off; the rest has to be UTF-8. -/
def decode? : Bytes → Option SourceText
  | 0xef :: 0xbb :: 0xbf :: body => (Utf8.decode? body).map fun text ↦ ⟨text, true⟩
  | body => (Utf8.decode? body).map fun text ↦ ⟨text, false⟩

end SourceText

end LiteralPatch
