import LiteralPatch.FileSystem.Walk
import LiteralPatch.Log
import LiteralPatch.SourceText

namespace LiteralPatch

namespace FileSystem

def readSource (fs : FileSystem) (path : Text) : Except PatchError SourceText :=
  match fs.read path with
  | .error fault => .error (.readFailed path fault)
  | .ok content =>
    match SourceText.decode? content with
    | some s => .ok s
    | none => .error (.notUtf8 path)

def writeSource (fs : FileSystem) (path : Text) (s : SourceText) : Except PatchError FileSystem :=
  match fs.write path s.encode with
  | .error fault => .error (.writeFailed path fault)
  | .ok fs => .ok fs

end FileSystem

structure Outcome where
  path : Text
  kind : FileKind
  hits : Nat
  changed : Bool
  written : Bool
  deriving DecidableEq, Repr

structure Turn where
  files : FileSystem
  log : List LogEntry
  outcome : Except PatchError Outcome

structure Run where
  files : FileSystem
  outcomes : List Outcome
  /-- The files announced as modified, in the same order. -/
  announced : List Outcome
  log : List LogEntry
  failure : Option PatchError

namespace Run

def stop (fs : FileSystem) (log : List LogEntry) (failure : Option PatchError) : Run :=
  ⟨fs, [], [], log, failure⟩

def after (o : Outcome) (log : List LogEntry) (r : Run) : Run :=
  { r with
    outcomes := o :: r.outcomes
    announced := if o.changed then o :: r.announced else r.announced
    log := log ++ r.log }

def result (r : Run) : Except PatchError (List Outcome) :=
  match r.failure with
  | some e => .error e
  | none => .ok r.outcomes

end Run

namespace Settings

def editLog (path : Text) (kind : FileKind) (p : Patch) : List LogEntry :=
  (p.ruleHits.filter (0 < ·.2)).map (fun (quote, hits) ↦ .ruleHits quote hits) ++
    if kind = .targeted ∧ p.hits = 0 then [.noDeclaration path] else []

/-- Reads, edits and writes one file. Nothing is written in a dry run, or if nothing changed. -/
def patchFile (cfg : Settings) (fs : FileSystem) (path : Text) (kind : FileKind) : Turn :=
  let opening := LogEntry.processing path kind
  match fs.readSource path with
  | .error e => ⟨fs, [opening], .error e⟩
  | .ok source =>
    let p := cfg.patch kind source.text
    let log := opening :: editLog path kind p
    let changed := decide (p.content ≠ source.text)
    let written := changed && !cfg.dryRun
    let outcome : Outcome := { path, kind, hits := p.hits, changed, written }
    if written then
      match fs.writeSource path { source with text := p.content } with
      | .ok fs' => ⟨fs', log, .ok outcome⟩
      | .error e => ⟨fs, log, .error e⟩
    else ⟨fs, log, .ok outcome⟩

/-- Handles what the walk meets. An entry that is no file, or leads to none, is passed over. -/
def handle (cfg : Settings) (fs : FileSystem) : List Visit → Run
  | [] => Run.stop fs [] none
  | .unlisted path depth fault :: _ => Run.stop fs [] (some (.walkFailed path depth fault))
  | .entry path :: rest =>
    if !fs.isFile path then handle cfg fs rest
    else
      match cfg.kind? path with
      | none =>
        let r := handle cfg fs rest
        { r with log := .skipping path :: r.log }
      | some kind =>
        match cfg.patchFile fs path kind with
        | ⟨fs, log, .error e⟩ => Run.stop fs log (some e)
        | ⟨fs, log, .ok o⟩ => (handle cfg fs rest).after o log

def run (cfg : Settings) (before : ListingOrder) (fs : FileSystem) : Run :=
  if !fs.isDir cfg.root then Run.stop fs [] (some (.rootMissing cfg.root))
  else
    let r := cfg.handle fs (fs.walk before cfg.root)
    let closing : List LogEntry :=
      if r.failure.isNone then
        [.finished r.outcomes.length (r.outcomes.countP (·.changed))]
      else []
    { r with log := .starting cfg :: (r.log ++ closing) }

end Settings

end LiteralPatch
