import LiteralPatch.FileSystem.Basic

namespace LiteralPatch

namespace FileSystem

def pathLimit : Nat := 4096

def nameLimit : Nat := 255

def linkLimit : Nat := 40

/-- Where a path leads. -/
inductive Place
  | found (loc : Location)
  /-- The directory exists and has no entry of this name. -/
  | vacant (dir : Location) (name : Text)
  deriving DecidableEq, Repr

def Place.target : Place → Location
  | found loc => loc
  | vacant dir name => dir ++ [name]

def start (fs : FileSystem) (path : Text) : Location :=
  if path.head? = some '/' then [] else fs.cwd

/-- Follows the components of a path from `here`. A file that is to be created may not have a slash
behind its name. -/
def follow (fs : FileSystem) (creating : Bool) (links : Nat) (here : Location)
    (steps : List Text) : Except Fault Place :=
  match steps with
  | [] => .ok (.found here)
  | step :: rest =>
    if !(fs.top.at? here).any Node.isDir then .error .notDirectory
    else if step = [] ∨ step = ['.'] then follow fs creating links here rest
    else if step = ['.', '.'] then follow fs creating links here.dropLast rest
    else if creating && !rest.isEmpty && rest.all List.isEmpty then .error .isDirectory
    else if nameLimit < Utf8.size step then .error .nameTooLong
    else
      match fs.top.at? (here ++ [step]) with
      | none => if rest.isEmpty then .ok (.vacant here step) else .error .noEntry
      | some (.link target) =>
        match links with
        | 0 => .error .tooManyLinks
        | links + 1 =>
          follow fs creating links (if target.head? = some '/' then [] else here)
            (target.splitOn '/' ++ rest)
      | some _ => follow fs creating links (here ++ [step]) rest
termination_by (links, steps.length)

def resolve (fs : FileSystem) (creating : Bool) (path : Text) : Except Fault Place :=
  if path.contains '\x00' then .error .nulByte
  else if path = [] then .error .noEntry
  else if pathLimit ≤ Utf8.size path then .error .nameTooLong
  else fs.follow creating linkLimit (fs.start path) (path.splitOn '/')

def locate (fs : FileSystem) (path : Text) : Except Fault Location :=
  match fs.resolve false path with
  | .ok (.found loc) => .ok loc
  | .ok (.vacant _ _) => .error .noEntry
  | .error fault => .error fault

def node? (fs : FileSystem) (path : Text) : Option Node :=
  match fs.locate path with
  | .ok loc => fs.top.at? loc
  | .error _ => none

def isDir (fs : FileSystem) (path : Text) : Bool := (fs.node? path).any Node.isDir

def isFile (fs : FileSystem) (path : Text) : Bool := (fs.node? path).any Node.isFile

def openAt (fs : FileSystem) (loc : Location) : Except Fault Node :=
  match fs.top.at? loc, fs.host.closed? loc with
  | none, _ => .error .noEntry
  | some _, some fault => .error fault
  | some n, none => .ok n

def read (fs : FileSystem) (path : Text) : Except Fault Bytes :=
  match fs.locate path with
  | .error fault => .error fault
  | .ok loc =>
    match fs.openAt loc with
    | .error fault => .error fault
    | .ok (.file content) => .ok content
    | .ok _ => .error .isDirectory

def setFile (fs : FileSystem) (loc : Location) (content : Bytes) : FileSystem :=
  { fs with top := fs.top.put loc (.file content) }

def write (fs : FileSystem) (path : Text) (content : Bytes) : Except Fault FileSystem :=
  match fs.resolve true path with
  | .error fault => .error fault
  | .ok place =>
    if (fs.top.at? place.target).any Node.isDir then .error .isDirectory
    else
      match fs.host.closed? place.target with
      | some fault => .error fault
      | none => .ok (fs.setFile place.target content)

end FileSystem

end LiteralPatch
