import LiteralPatch.Log

namespace LiteralPatch

structure ColourWishes where
  style : Option Text := none
  avoid : Option Text := none
  force : Option Text := none
  permit : Option Text := none
  terminal : Option Text := none
  unattended : Option Text := none
  deriving DecidableEq, Repr

namespace ColourWishes

def isSet (wish : Option Text) : Bool := wish.any (· ≠ [])

/-- A wish against colour goes before one for it, and both before what suits the output. -/
def suits (w : ColourWishes) (onTerminal : Bool) : Bool :=
  let shows := w.terminal.any (· ≠ "dumb".toList) || w.permit.isSome || w.unattended.isSome
  !isSet w.avoid && (isSet w.force || (w.permit != some ['0'] && onTerminal && shows))

def coloured (w : ColourWishes) (onTerminal : Bool) : Bool :=
  match w.style.map String.ofList with
  | some "always" => true
  | some "never" => false
  | _ => w.suits onTerminal

end ColourWishes

def Level.colour : Level → String
  | error => "\x1b[1m\x1b[31m"
  | warn => "\x1b[33m"
  | info => "\x1b[32m"
  | debug => "\x1b[34m"
  | trace => "\x1b[36m"

namespace LogEntry

def inColour (colour text : String) : String := colour ++ text ++ "\x1b[0m"

/-- The line printed for an entry; level names are padded to five, and brackets are gray. -/
def line (coloured : Bool) (e : LogEntry) : String :=
  let level := e.level.name.pushn ' ' (5 - e.level.name.length)
  if coloured then
    let gray := inColour "\x1b[90m"
    gray "[" ++ inColour e.level.colour level ++ " " ++ e.source ++ gray "]" ++ " " ++ e.message
  else s!"[{level} {e.source}] {e.message}"

end LogEntry

end LiteralPatch
