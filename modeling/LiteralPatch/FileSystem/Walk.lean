import LiteralPatch.FileSystem.Resolve
import LiteralPatch.Path

namespace LiteralPatch

abbrev ListingOrder := Text → Text → Text → Bool

inductive Visit
  | entry (path : Text)
  /-- An entry, so many steps below the root, that cannot be looked at, or a directory whose entries
  cannot be listed. -/
  | unlisted (path : Text) (depth : Nat) (fault : Fault)
  deriving DecidableEq, Repr

def Visit.unless (fault? : Option Fault) (path : Text) (depth : Nat) (visits : List Visit) :
    List Visit :=
  match fault? with
  | some fault => [.unlisted path depth fault]
  | none => visits

def Host.listingFault? (host : Host) (here : Location) (path : Text) : Option Fault :=
  if FileSystem.pathLimit ≤ Utf8.size path then some .nameTooLong else host.closed? here

mutual

def Node.visits (host : Host) (before : ListingOrder) (here : Location) (path : Text)
    (depth : Nat) : Node → List Visit
  | .dir entries =>
    Visit.unless (host.lost? here) path depth <|
      .entry path ::
        Visit.unless (host.listingFault? here path) path depth
          (((visitsBelow host before here path (depth + 1) entries).mergeSort
            fun a b ↦ before path a.1 b.1).flatMap Prod.snd)
  | .file _ => Visit.unless (host.lost? here) path depth [.entry path]
  | .link _ => Visit.unless (host.lost? here) path depth [.entry path]

def visitsBelow (host : Host) (before : ListingOrder) (here : Location) (path : Text)
    (depth : Nat) : List (Text × Node) → List (Text × List Visit)
  | [] => []
  | (name, node) :: entries =>
    (name, node.visits host before (here ++ [name]) (Path.join path name) depth) ::
      visitsBelow host before here path depth entries

end

def FileSystem.walk (fs : FileSystem) (before : ListingOrder) (root : Text) : List Visit :=
  match fs.locate root with
  | .error _ => []
  | .ok here =>
    match fs.top.at? here with
    | some node => node.visits fs.host before here root 0
    | none => []

end LiteralPatch
