import LiteralPatch.Text

namespace LiteralPatch

namespace Path

def steps (path : Text) : List Text :=
  (path.splitOn '/').filter fun s ↦ s ≠ [] ∧ s ≠ ['.']

/-- The last component, unless it leads up or there is none. -/
def fileName? (path : Text) : Option Text :=
  (steps path).getLast?.filter (· ≠ ['.', '.'])

/-- What follows the last dot of a name, unless that dot opens the name. -/
def extension? (name : Text) : Option Text :=
  match name.reverse.span (· ≠ '.') with
  | (ext, '.' :: stem) => if stem = [] then none else some ext.reverse
  | _ => none

def join (dir name : Text) : Text :=
  if dir.getLast? = some '/' then dir ++ name else dir ++ '/' :: name

def parent (path : Text) : Text :=
  match (path.reverse.dropWhile (· ≠ '/')).dropWhile (· = '/') with
  | [] => if path.contains '/' then ['/'] else []
  | s => s.reverse

end Path

end LiteralPatch
