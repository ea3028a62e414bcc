import LiteralPatch.Error
import LiteralPatch.Settings

namespace LiteralPatch

inductive Level
  | error
  | warn
  | info
  | debug
  | trace
  deriving DecidableEq, Repr

namespace Level

def rank : Level → Nat
  | error => 1
  | warn => 2
  | info => 3
  | debug => 4
  | trace => 5

def name : Level → String
  | error => "ERROR"
  | warn => "WARN"
  | info => "INFO"
  | debug => "DEBUG"
  | trace => "TRACE"

def ofVerbosity : Nat → Level
  | 0 => warn
  | 1 => info
  | 2 => debug
  | _ => trace

end Level

inductive LogEntry
  | emptyWhitelist
  | starting (cfg : Settings)
  | skipping (path : Text)
  | processing (path : Text) (kind : FileKind)
  | ruleHits (quote : Quote) (hits : Nat)
  | noDeclaration (path : Text)
  | finished (visited modified : Nat)
  deriving DecidableEq, Repr

namespace LogEntry

def level : LogEntry → Level
  | emptyWhitelist | noDeclaration _ => .warn
  | starting _ | finished _ _ => .info
  | processing _ _ | ruleHits _ _ => .debug
  | skipping _ => .trace

def source : LogEntry → String
  | emptyWhitelist => "charpatch::patch"
  | ruleHits _ _ => "charpatch_core::rules"
  | _ => "charpatch_core::walker"

def anchorName : Anchor → String
  | .letter => "Letter"
  | .range => "Range"

def extentName : ParenExtent → String
  | .greedy => "Greedy"
  | .first => "First"

def quoteName : Quote → String
  | .single => "Single"
  | .double => "Double"

def kindName : FileKind → String
  | .targeted => "Targeted"
  | .generic => "Generic"

def message : LogEntry → String
  | emptyWhitelist => "Whitelist is empty; literals will be left as they are"
  | starting cfg =>
    let modes := s!"letters: {anchorName cfg.anchor}, parens: {extentName cfg.extent}"
    s!"Patching {cfg.root.inMessage} ({modes}, dry run: {cfg.dryRun})"
  | skipping path => s!"Skipping {path.inMessage}"
  | processing path kind => s!"Processing {path.inMessage} as {kindName kind}"
  | ruleHits quote hits => s!"{quoteName quote} rule matched {hits} literal(s)"
  | noDeclaration path => s!"No allowSpecialChars declaration found in {path.inMessage}"
  | finished visited modified => s!"Visited {visited} file(s), {modified} modified"

end LogEntry

end LiteralPatch
