import LiteralPatch.CommandLine.Execution
import LiteralPatch.Log.Filter

namespace LiteralPatch

structure Invocation where
  arguments : List Text
  environment : Environment
  program : Text
  input : Bytes
  onTerminal : Bool := false

structure Finish where
  status : Nat
  files : FileSystem
  output : List Printed
  notice : String
  errors : List String

namespace Invocation

def versionLine : String := "charpatch-cli 0.1.0\n"

def helpText : String :=
  String.intercalate "\n"
    ["Whitelist characters in generated C# sources",
     "",
     "Usage: charpatch [OPTIONS]",
     "",
     "Options:",
     "      --whitelist <WHITELIST>  Characters to allow; asked for when absent",
     "      --root <ROOT>            Directory to patch",
     "      --letters <LETTERS>      What counts as a letter: letter, range",
     "      --paren <PAREN>          How far a declaration reaches: greedy, first",
     "      --dry-run                Tell what would change without writing",
     "      --json                   Print a JSON summary of every file after the run",
     "  -v, --verbose...             Increase log verbosity",
     "  -h, --help                   Print help",
     "  -V, --version                Print version",
     ""]

def logFilter (inv : Invocation) (a : Arguments) : LogFilter × List FilterFault :=
  match inv.environment.log with
  | some spec => LogFilter.read spec
  | none => (LogFilter.ofLevel (Level.ofVerbosity a.verbosity), [])

def finish (inv : Invocation) (before : ListingOrder) (fs : FileSystem) : Finish :=
  match Arguments.read inv.arguments inv.environment with
  | .error .version => ⟨0, fs, [], versionLine, []⟩
  | .error .help => ⟨0, fs, [], helpText, []⟩
  | .error (.usage e) => ⟨2, fs, [], "", [s!"error: {e.message}"]⟩
  | .ok a =>
    let (filter, faults) := inv.logFilter a
    let coloured := inv.environment.colour.coloured inv.onTerminal
    let x := a.execute inv.program inv.input before fs
    let log := faults.map FilterFault.warning ++
      (x.log.filter filter.shows).map (LogEntry.line coloured)
    match x.failure with
    | none => ⟨0, x.files, x.printed, "", log⟩
    | some e => ⟨1, x.files, x.printed, "", log ++ [s!"Error: {e.detail}"]⟩

end Invocation

end LiteralPatch
