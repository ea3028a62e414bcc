import LiteralPatch.Log
import LiteralPatch.Pattern.Program
import LiteralPatch.Pattern.Read
import LiteralPatch.Pattern.Size

namespace LiteralPatch

structure Directive where
  scope : Option Text
  level : Option Level
  deriving DecidableEq, Repr

structure LogFilter where
  directives : List Directive
  pattern : Option PatternProgram := none
  deriving DecidableEq, Repr

inductive FilterFault
  | refused (words : Text)
  | tooManyParts (spec : Text)
  | badPattern (written : Text) (e : PatternError)
  | hugePattern
  deriving DecidableEq, Repr

namespace FilterFault

def message : FilterFault → String
  | refused words => s!"invalid logging spec '{String.ofList words}'"
  | tooManyParts spec => s!"invalid logging spec '{String.ofList spec}' (too many '/'s)"
  | badPattern written e => s!"invalid regex filter - {e.message written}"
  | hugePattern =>
    s!"invalid regex filter - Compiled regex exceeds size limit of {Machine.sizeLimit} bytes."

def warning (fault : FilterFault) : String := s!"warning: {fault.message}, ignoring it"

end FilterFault

namespace LogFilter

def level? (s : Text) : Option (Option Level) :=
  let name := String.ofList (s.map Char.toUpper)
  if name = "OFF" then some none
  else ([.error, .warn, .info, .debug, .trace].find? (Level.name · = name)).map some

def directive (s : Text) : Except Text Directive :=
  match s.splitOn '=' with
  | [word] =>
    match level? word with
    | some level => .ok ⟨none, level⟩
    | none => .ok ⟨some word, some .trace⟩
  | [scope, word] =>
    let word := Text.trim word
    if word = [] then .ok ⟨some scope, some .trace⟩
    else
      match level? word with
      | some level => .ok ⟨some scope, level⟩
      | none => .error word
  | _ => .error s

/-- A directive takes the place of an earlier one with its scope. -/
def add (ds : List Directive) (d : Directive) : List Directive :=
  if ds.any (·.scope = d.scope) then ds.map fun e ↦ if e.scope = d.scope then d else e
  else ds ++ [d]

def readDirectives (text : Text) : List Directive × List Text :=
  let parts := ((text.splitOn ',').map Text.trim).filter (· ≠ [])
  parts.foldl
    (fun (ds, refused) part ↦
      match directive part with
      | .ok d => (add ds d, refused)
      | .error words => (ds, refused ++ [words]))
    ([], [])

def readPattern (written : Text) : Option PatternProgram × List FilterFault :=
  match Pattern.read written with
  | .ok p => if p.isTooLarge then (none, [.hugePattern]) else (some p.program, [])
  | .error e => (none, [.badPattern written e])

/-- With no directive only errors are shown. -/
def ofDirectives (ds : List Directive) (pattern : Option PatternProgram) : LogFilter :=
  ⟨if ds.isEmpty then [⟨none, some .error⟩] else ds, pattern⟩

def read (spec : Text) : LogFilter × List FilterFault :=
  match spec.splitOn '/' with
  | [] => (ofDirectives [] none, [])
  | [text] =>
    let (ds, refused) := readDirectives text
    (ofDirectives ds none, refused.map .refused)
  | [text, written] =>
    let (ds, refused) := readDirectives text
    let (pattern, faults) := readPattern written
    (ofDirectives ds pattern, refused.map .refused ++ faults)
  | _ => (ofDirectives [] none, [.tooManyParts spec])

def ofLevel (level : Level) : LogFilter := ⟨[⟨none, some level⟩], none⟩

/-- The directive with the longest scope that an entry's source starts with, the later of two. -/
def deciding? (filter : LogFilter) (source : Text) : Option Directive :=
  let width (d : Directive) : Nat := (d.scope.map Utf8.size).getD 0
  (filter.directives.filter fun d ↦ (d.scope.getD []).isPrefixOf source).foldl
    (fun best d ↦
      match best with
      | none => some d
      | some b => if width b ≤ width d then some d else some b)
    none

def admits (filter : LogFilter) (e : LogEntry) : Bool :=
  ((filter.deciding? e.source.toList).bind Directive.level).any fun level ↦
    e.level.rank ≤ level.rank

def shows (filter : LogFilter) (e : LogEntry) : Bool :=
  filter.admits e && filter.pattern.all (·.occursIn e.message.toList)

end LogFilter

end LiteralPatch
