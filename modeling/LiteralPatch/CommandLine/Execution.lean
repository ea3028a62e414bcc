import LiteralPatch.CommandLine.Arguments
import LiteralPatch.CommandLine.Summary
import LiteralPatch.Prompt

namespace LiteralPatch

inductive Printed
  | question
  | modified (dryRun : Bool) (path : Text)
  | summary (outcomes : List Outcome)
  deriving DecidableEq, Repr

namespace Printed

def modifiedLine (dryRun : Bool) (path : Text) : String :=
  (if dryRun then "Would modify " else "Successfully modified ") ++ String.ofList path

def text : Printed → String
  | question => String.ofList Prompt.question
  | modified dryRun path => modifiedLine dryRun path ++ "\n"
  | summary outcomes => Summary.render outcomes ++ "\n"

end Printed

structure Execution where
  files : FileSystem
  printed : List Printed
  log : List LogEntry
  failure : Option CommandError

namespace Arguments

def answer (a : Arguments) (input : Bytes) : Except ProgramError Text :=
  match a.whitelist with
  | some raw => .ok raw
  | none => (Prompt.answer input).1

/-- Why no directory is found next to the program when none is named. -/
def rootFailure? (a : Arguments) (program : Text) : Option PatchError :=
  if a.root.isSome then none
  else if program = [] then some .programUnknown
  else if Path.steps program = [] then
    some (.told s!"Executable path has no parent: {program.inMessage}".toList)
  else none

def configure (a : Arguments) (program : Text) (input : Bytes) :
    List Printed × Except ProgramError Settings :=
  (if a.whitelist.isNone then [.question] else [],
    match a.answer input with
    | .error e => .error e
    | .ok raw =>
      match a.rootFailure? program with
      | some e => .error (.patch e)
      | none => .ok (a.settings program raw))

/-- The path of the program is empty if the system does not tell it. -/
def execute (a : Arguments) (program : Text) (input : Bytes) (before : ListingOrder)
    (fs : FileSystem) : Execution :=
  match a.configure program input with
  | (printed, .error e) => ⟨fs, printed, [], some (.program e)⟩
  | (printed, .ok cfg) =>
    let r := cfg.run before fs
    let log := if cfg.whitelist.isEmpty then .emptyWhitelist :: r.log else r.log
    let printed := printed ++ r.announced.map fun o ↦ .modified cfg.dryRun o.path
    match r.result with
    | .error e => ⟨r.files, printed, log, some (.program (.patch e))⟩
    | .ok outcomes =>
      if !a.json then ⟨r.files, printed, log, none⟩
      else if outcomes.all fun o ↦ fs.host.isUnicode o.path then
        ⟨r.files, printed ++ [.summary outcomes], log, none⟩
      else ⟨r.files, printed, log, some .summary⟩

end Arguments

end LiteralPatch
