import LiteralPatch.FileSystem.Basic
import LiteralPatch.Text.Quoted

namespace LiteralPatch

inductive PatchError
  | rootMissing (root : Text)
  | readFailed (path : Text) (fault : Fault)
  | writeFailed (path : Text) (fault : Fault)
  | notUtf8 (path : Text)
  | walkFailed (path : Text) (depth : Nat) (fault : Fault)
  /-- The system does not tell where the running program is. -/
  | programUnknown
  | told (words : Text)
  deriving DecidableEq, Repr

namespace Fault

def group : Fault → String
  | noEntry => "NotFound"
  | deviceFailed => "Uncategorized"
  | denied => "PermissionDenied"
  | notDirectory => "NotADirectory"
  | isDirectory => "IsADirectory"
  | nameTooLong => "InvalidFilename"
  | tooManyLinks => "FilesystemLoop"
  | nulByte => "InvalidInput"

def detail (fault : Fault) : String :=
  match fault.code? with
  | some n =>
    s!"Os \x7b code: {n}, kind: {fault.group}, message: \"{fault.description}\" \x7d"
  | none => s!"Error \x7b kind: {fault.group}, message: \"{fault.description}\" \x7d"

end Fault

namespace PatchError

def words : PatchError → Text
  | rootMissing root => s!"Root directory not found: {root.inMessage}".toList
  | readFailed path fault => s!"Failed to read file {path.inMessage}: {fault.message}".toList
  | writeFailed path fault => s!"Failed to write file {path.inMessage}: {fault.message}".toList
  | notUtf8 path => s!"{path.inMessage} is not valid UTF-8".toList
  | walkFailed path _ fault =>
    s!"IO error for operation on {String.ofList path}: {fault.message}".toList
  | programUnknown => "no /proc/self/exe available. Is /proc mounted?".toList
  | told words => words

def message (e : PatchError) : String :=
  let words := String.ofList e.words
  match e with
  | notUtf8 _ => s!"Encoding Error: {words}"
  | walkFailed _ _ _ => s!"Walk Error: {words}"
  | programUnknown => s!"IO Error: {words}"
  | _ => s!"General Error: {words}"

def detail (e : PatchError) : String :=
  match e with
  | notUtf8 path => s!"Encoding({path.inMessage})"
  | walkFailed path depth fault =>
    let inner := s!"Io \x7b path: Some({path.inMessage}), err: {fault.detail} \x7d"
    s!"Walk(Error \x7b depth: {depth}, inner: {inner} \x7d)"
  | programUnknown =>
    s!"Io(Error \x7b kind: Uncategorized, message: {e.words.inMessage} \x7d)"
  | e => s!"General({e.words.inMessage})"

end PatchError

inductive ProgramError
  | promptNotUtf8
  | patch (e : PatchError)
  deriving DecidableEq, Repr

namespace ProgramError

def message : ProgramError → String
  | promptNotUtf8 => "IO Error: stream did not contain valid UTF-8"
  | patch e => e.message

def detail : ProgramError → String
  | promptNotUtf8 =>
    "Io(Error \x7b kind: InvalidData, message: \"stream did not contain valid UTF-8\" \x7d)"
  | patch e => s!"Core({e.detail})"

end ProgramError

inductive CommandError
  | program (e : ProgramError)
  /-- There is a path that is not Unicode to put into the summary. -/
  | summary
  deriving DecidableEq, Repr

namespace CommandError

def message : CommandError → String
  | program e => e.message
  | summary => "JSON Error: path contains invalid UTF-8 characters"

def detail : CommandError → String
  | program e => e.detail
  | summary => "Json(Error(\"path contains invalid UTF-8 characters\", line: 0, column: 0))"

end CommandError

end LiteralPatch
