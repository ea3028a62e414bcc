import LiteralPatch.Utf8

namespace LiteralPatch

inductive Node
  | file (content : Bytes)
  | link (target : Text)
  | dir (entries : List (Text × Node))

/-- The names from the top directory down to a node, none of them a link. -/
abbrev Location := List Text

inductive Fault
  | noEntry
  | deviceFailed
  | denied
  | notDirectory
  | isDirectory
  | nameTooLong
  | tooManyLinks
  | nulByte
  deriving DecidableEq, Repr

namespace Fault

/-- The number the system gives the fault; a path with a NUL never reaches the system. -/
def code? : Fault → Option Nat
  | noEntry => some 2
  | deviceFailed => some 5
  | denied => some 13
  | notDirectory => some 20
  | isDirectory => some 21
  | nameTooLong => some 36
  | tooManyLinks => some 40
  | nulByte => none

def description : Fault → String
  | noEntry => "No such file or directory"
  | deviceFailed => "Input/output error"
  | denied => "Permission denied"
  | notDirectory => "Not a directory"
  | isDirectory => "Is a directory"
  | nameTooLong => "File name too long"
  | tooManyLinks => "Too many levels of symbolic links"
  | nulByte => "file name contained an unexpected NUL byte"

def message (fault : Fault) : String :=
  match fault.code? with
  | some n => s!"{fault.description} (os error {n})"
  | none => fault.description

end Fault

/-- What a machine has a say in besides the files it holds: nothing, unless it is given. -/
class Host where
  /-- Why the file or the directory at a location does not open. -/
  closed? : Location → Option Fault := fun _ ↦ none
  /-- Why the entry at a location cannot be looked at when its directory is listed. -/
  lost? : Location → Option Fault := fun _ ↦ none
  /-- Of a path that is not Unicode the text is what is shown for it. -/
  isUnicode : Text → Bool := fun _ ↦ true

instance : Host := {}

structure FileSystem where
  top : Node
  cwd : Location
  [host : Host]

namespace Node

def isDir : Node → Bool
  | dir _ => true
  | _ => false

def isFile : Node → Bool
  | file _ => true
  | _ => false

def at? : Node → Location → Option Node
  | n, [] => some n
  | dir entries, name :: rest => (entries.lookup name).bind fun n ↦ n.at? rest
  | _, _ :: _ => none

def setEntry (name : Text) (n : Node) : List (Text × Node) → List (Text × Node)
  | [] => [(name, n)]
  | e :: entries => if e.1 = name then (name, n) :: entries else e :: setEntry name n entries

def put : Node → Location → Node → Node
  | _, [], new => new
  | dir entries, name :: rest, new =>
    dir (setEntry name (((entries.lookup name).getD (dir [])).put rest new) entries)
  | n, _ :: _, _ => n

mutual

def leaves (here : Location) : Node → List (Location × Node)
  | dir entries => leavesBelow here entries
  | file content => [(here, file content)]
  | link target => [(here, link target)]

def leavesBelow (here : Location) : List (Text × Node) → List (Location × Node)
  | [] => []
  | (name, n) :: entries => n.leaves (here ++ [name]) ++ leavesBelow here entries

end

end Node

end LiteralPatch
