import LiteralPatch.Escape
import LiteralPatch.LetterRange
import LiteralPatch.Literal

namespace LiteralPatch

inductive Anchor
  /-- The first ASCII letter of each literal that is not part of an escape. -/
  | letter
  /-- The last letter range between the first and the last quote of each line. -/
  | range
  deriving DecidableEq, Repr

/-- The spans the anchor looks at, as a regular expression. -/
def Anchor.expression (q : Char) : Anchor → Text
  | .letter => [q] ++ "(?:[^".toList ++ [q] ++ "\\\\\\n]|\\\\.)*".toList ++ [q]
  | .range => "(".toList ++ [q] ++ "[^\\n]*)(a-zA-Z|A-Za-z)([^\\n]*".toList ++ [q] ++ ")".toList

structure Rule where
  quote : Quote
  anchor : Anchor
  insert : Text
  deriving DecidableEq, Repr

namespace Rule

def ofWhitelist (w : Whitelist) (anchor : Anchor) (q : Quote) : Rule :=
  ⟨q, anchor, w.escaped q⟩

def insertInLiteral? (insert literal : Text) : Option Text :=
  (Literal.split? literal).map fun k ↦ k.before ++ k.letter :: insert ++ k.after

def insertInCut (insert : Text) (k : LetterRange.Cut) : Text :=
  k.before ++ k.range ++ insert ++ k.after

/-- The hits are the insertions: a literal without a free letter is none. -/
def apply (rule : Rule) (content : Text) : Edit :=
  match rule.anchor with
  | .letter => (Literal.matcher rule.quote.mark).replace (insertInLiteral? rule.insert) content
  | .range =>
    (LetterRange.matcher rule.quote.mark).replace (fun k ↦ some (insertInCut rule.insert k)) content

def both (w : Whitelist) (anchor : Anchor) : List Rule :=
  [ofWhitelist w anchor .double, ofWhitelist w anchor .single]

/-- Applies the rules in order, each to what the one before it left, and gives the hits of each. -/
def applyEach : List Rule → Text → Text × List (Quote × Nat)
  | [], content => (content, [])
  | rule :: rules, content =>
    let e := rule.apply content
    let (out, hits) := applyEach rules e.content
    (out, (rule.quote, e.hits) :: hits)

def totalHits (hits : List (Quote × Nat)) : Nat := hits.foldr (fun h n ↦ h.2 + n) 0

def applyAll (rules : List Rule) (content : Text) : Edit :=
  let (out, hits) := applyEach rules content
  ⟨out, totalHits hits⟩

end Rule

end LiteralPatch
