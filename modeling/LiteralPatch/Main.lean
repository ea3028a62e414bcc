import LiteralPatch.CommandLine.Invocation

namespace LiteralPatch

namespace Main

def textOf (s : String) : Text := s.toList

def namesOf (path : String) : Location := Path.steps (textOf path)

def pathOf (loc : Location) : String :=
  loc.foldl (fun path name ↦ path ++ "/" ++ String.ofList name) ""

def finalPath? (path : String) : IO (Option String) := do
  try
    let path ← IO.FS.realPath path
    if ← path.pathExists then return some path.toString else return none
  catch _ => return none

def withNode (fs : FileSystem) (path : String) (n : Node) : FileSystem :=
  { fs with top := fs.top.put (namesOf path) n }

def withMissing (fs : FileSystem) (path : String) (n : Node) : FileSystem :=
  if (fs.top.at? (namesOf path)).isSome then fs else withNode fs path n

def faultOf : IO.Error → Fault
  | .permissionDenied .. => .denied
  | .noFileOrDirectory .. => .noEntry
  | _ => .deviceFailed

def withClosed (fs : FileSystem) (path : String) (e : IO.Error) : FileSystem :=
  let closed? (loc : Location) : Option Fault :=
    if loc = namesOf path then some (faultOf e) else fs.host.closed? loc
  { fs with host := { fs.host with closed? } }

def withLost (fs : FileSystem) (path : String) (e : IO.Error) : FileSystem :=
  let lost? (loc : Location) : Option Fault :=
    if loc = namesOf path then some (faultOf e) else fs.host.lost? loc
  { withMissing fs path (.file []) with host := { fs.host with lost? } }

def withFile (fs : FileSystem) (path : String) (needed : Bool) : IO FileSystem := do
  if !needed then return withMissing fs path (.file [])
  try
    return withNode fs path (.file (← IO.FS.readBinFile path).data.toList)
  catch e => return withClosed (withMissing fs path (.file [])) path e

/-- Adds a directory with all below it. A link is taken straight to where it ends. -/
partial def withTree (cfg : Settings) (fs : FileSystem) (path : String) : IO FileSystem := do
  let mut fs := withMissing fs path (.dir [])
  match ← EIO.toBaseIO (do (← IO.FS.realPath path).readDir) with
  | .error e => return withClosed fs path e
  | .ok entries =>
    for entry in entries do
      let below := entry.path.toString
      let needed := (cfg.kind? (textOf below)).isSome
      match ← EIO.toBaseIO entry.path.symlinkMetadata with
      | .error e => fs := withLost fs below e
      | .ok data =>
        match data.type with
        | .dir => fs ← withTree cfg fs below
        | .file => fs ← withFile fs below needed
        | .symlink =>
          if let some target ← finalPath? below then
            fs := withNode fs below (.link (textOf target))
            if (← (← IO.FS.realPath target).metadata).type == .file then
              fs ← withFile fs target needed
        | .other => pure ()
    return fs

def withPath (fs : FileSystem) (here : String) : List Text → IO FileSystem
  | [] => return fs
  | step :: rest => do
    let next := here ++ "/" ++ String.ofList step
    match ← finalPath? next with
    | none => return fs
    | some target =>
      let direct := step = ['.', '.'] || namesOf target = namesOf next
      let fs := if direct then fs else withNode fs next (.link (textOf target))
      withPath fs target rest

def picture (cfg : Settings) : IO FileSystem := do
  let cwd ← IO.currentDir
  let empty : FileSystem := ⟨.dir [], namesOf cwd.toString⟩
  let fs := { empty with top := empty.top.put empty.cwd (.dir []) }
  match ← finalPath? (String.ofList cfg.root) with
  | none => return fs
  | some root =>
    let fs ← if ← (← IO.FS.realPath root).isDir then withTree cfg fs root
      else withFile fs root false
    let here := if cfg.root.head? = some '/' then "" else cwd.toString
    withPath fs here (Path.steps cfg.root)

partial def readLine (input : IO.FS.Stream) (line : Bytes) : IO Bytes := do
  let next ← input.read 1
  match next.data.toList with
  | [] => return line
  | b :: _ => if b = 0x0a then return line ++ [b] else readLine input (line ++ [b])

def carryOut (before after : FileSystem) : IO Unit :=
  for (loc, n) in after.top.leaves [] do
    match n, before.top.at? loc with
    | .file new, some (.file old) =>
      if new ≠ old then IO.FS.writeBinFile (pathOf loc) ⟨new.toArray⟩
    | _, _ => pure ()

def listedByName (_ a b : Text) : Bool := String.ofList a ≤ String.ofList b

end Main

end LiteralPatch

open LiteralPatch LiteralPatch.Main in
def main (args : List String) : IO UInt32 := do
  let env ← Environment.names.mapM fun name ↦ do
    return (name, (← IO.getEnv name).map textOf)
  let output ← IO.getStdout
  let program ← try pure (textOf (← IO.appPath).toString) catch _ => pure []
  let inv : Invocation :=
    { arguments := args.map textOf
      environment := .read fun name ↦ (env.lookup name).join
      program
      input := []
      onTerminal := ← (← IO.getStderr).isTty }
  let (inv, fs) ← match Arguments.read inv.arguments inv.environment with
    | .error _ => pure (inv, ⟨.dir [], []⟩)
    | .ok a => do
      let input ← if a.whitelist.isSome then pure [] else do
        output.putStr Printed.question.text
        output.flush
        readLine (← IO.getStdin) []
      pure ({ inv with input }, ← picture (a.settings inv.program []))
  let r := inv.finish listedByName fs
  carryOut fs r.files
  for p in r.output.filter (· ≠ .question) do
    output.putStr p.text
  output.putStr r.notice
  for line in r.errors do
    IO.eprintln line
  return r.status.toUInt32
