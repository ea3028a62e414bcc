import LiteralPatch.Log.Colour

namespace LiteralPatch

inductive UsageError
  | unexpected (argument : Text)
  | valueMissing (name : Text)
  | valueRefused (name : Text)
  | invalidValue (name value : Text)
  | repeated (name : Text)
  deriving DecidableEq, Repr

def UsageError.message : UsageError → String
  | unexpected argument => s!"unexpected argument {String.ofList argument}"
  | valueMissing name => s!"a value is required for {String.ofList name}"
  | valueRefused name => s!"no value is allowed for {String.ofList name}"
  | invalidValue name value =>
    s!"invalid value \"{String.ofList value}\" for {String.ofList name}"
  | repeated name => s!"{String.ofList name} cannot be used more than once"

inductive Ending
  | usage (e : UsageError)
  | version
  | help
  deriving DecidableEq, Repr

structure Arguments where
  whitelist : Option Text := none
  /-- Next to the program when not given. -/
  root : Option Text := none
  anchor : Option Anchor := none
  extent : Option ParenExtent := none
  dryRun : Bool := false
  json : Bool := false
  verbosity : Nat := 0
  deriving DecidableEq, Repr

structure Environment where
  whitelist : Option Text := none
  root : Option Text := none
  log : Option Text := none
  colour : ColourWishes := {}
  deriving DecidableEq, Repr

namespace Environment

def names : List String :=
  ["CHARPATCH_WHITELIST", "CHARPATCH_ROOT", "RUST_LOG", "RUST_LOG_STYLE", "NO_COLOR",
    "CLICOLOR_FORCE", "CLICOLOR", "TERM", "CI"]

def read (value? : String → Option Text) : Environment :=
  { whitelist := value? "CHARPATCH_WHITELIST"
    root := value? "CHARPATCH_ROOT"
    log := value? "RUST_LOG"
    colour :=
      { style := value? "RUST_LOG_STYLE"
        avoid := value? "NO_COLOR"
        force := value? "CLICOLOR_FORCE"
        permit := value? "CLICOLOR"
        terminal := value? "TERM"
        unattended := value? "CI" } }

end Environment

namespace Arguments

inductive ValueOption
  | whitelist
  | root
  | letters
  | paren
  deriving DecidableEq, Repr

inductive Flag
  | dryRun
  | json
  | verbose
  | version
  | help
  deriving DecidableEq, Repr

def option? (name : Text) : Option (ValueOption ⊕ Flag) :=
  match String.ofList name with
  | "whitelist" => some (.inl .whitelist)
  | "root" => some (.inl .root)
  | "letters" => some (.inl .letters)
  | "paren" => some (.inl .paren)
  | "dry-run" => some (.inr .dryRun)
  | "json" => some (.inr .json)
  | "verbose" => some (.inr .verbose)
  | "version" => some (.inr .version)
  | "help" => some (.inr .help)
  | _ => none

def shortFlag? : Char → Option Flag
  | 'v' => some .verbose
  | 'V' => some .version
  | 'h' => some .help
  | _ => none

def anchor? (value : Text) : Option Anchor :=
  if value = "letter".toList then some .letter
  else if value = "range".toList then some .range
  else none

def extent? (value : Text) : Option ParenExtent :=
  if value = "greedy".toList then some .greedy
  else if value = "first".toList then some .first
  else none

def set (a : Arguments) (name value : Text) : ValueOption → Except Ending Arguments
  | .whitelist =>
    if a.whitelist.isSome then .error (.usage (.repeated name))
    else .ok { a with whitelist := some value }
  | .root =>
    if value = [] then .error (.usage (.invalidValue name value))
    else if a.root.isSome then .error (.usage (.repeated name))
    else .ok { a with root := some value }
  | .letters =>
    match anchor? value with
    | none => .error (.usage (.invalidValue name value))
    | some anchor =>
      if a.anchor.isSome then .error (.usage (.repeated name))
      else .ok { a with anchor := some anchor }
  | .paren =>
    match extent? value with
    | none => .error (.usage (.invalidValue name value))
    | some extent =>
      if a.extent.isSome then .error (.usage (.repeated name))
      else .ok { a with extent := some extent }

def raise (a : Arguments) (name : Text) : Flag → Except Ending Arguments
  | .dryRun =>
    if a.dryRun then .error (.usage (.repeated name)) else .ok { a with dryRun := true }
  | .json => if a.json then .error (.usage (.repeated name)) else .ok { a with json := true }
  | .verbose => .ok { a with verbosity := a.verbosity + 1 }
  | .version => .error .version
  | .help => .error .help

def raiseAll (a : Arguments) : List Char → Except Ending Arguments
  | [] => .ok a
  | c :: cs =>
    match shortFlag? c with
    | none => .error (.usage (.unexpected ['-', c]))
    | some flag =>
      match a.raise ['-', c] flag with
      | .ok a => a.raiseAll cs
      | .error e => .error e

/-- An argument can be the value of the option before it unless it looks like an option. -/
def isValue (argument : Text) : Bool := argument = ['-'] || argument.head? != some '-'

def readAfter (a : Arguments) : List Text → Except Ending Arguments
  | [] => .ok a
  | ['-', '-'] :: rest =>
    match rest with
    | [] => .ok a
    | argument :: _ => .error (.usage (.unexpected argument))
  | ('-' :: '-' :: body) :: rest =>
    let name := body.takeWhile (· ≠ '=')
    let shown := '-' :: '-' :: name
    match option? name, body.dropWhile (· ≠ '=') with
    | none, _ => .error (.usage (.unexpected shown))
    | some (.inr flag), [] =>
      match a.raise shown flag with
      | .ok a => a.readAfter rest
      | .error e => .error e
    | some (.inr _), _ :: _ => .error (.usage (.valueRefused shown))
    | some (.inl option), _ :: value =>
      match a.set shown value option with
      | .ok a => a.readAfter rest
      | .error e => .error e
    | some (.inl option), [] =>
      match rest with
      | [] => .error (.usage (.valueMissing shown))
      | value :: rest =>
        if isValue value then
          match a.set shown value option with
          | .ok a => a.readAfter rest
          | .error e => .error e
        else .error (.usage (.valueMissing shown))
  | ('-' :: c :: cs) :: rest =>
    match a.raiseAll (c :: cs) with
    | .ok a => a.readAfter rest
    | .error e => .error e
  | argument :: _ => .error (.usage (.unexpected argument))

def complete (a : Arguments) (env : Environment) : Except Ending Arguments :=
  let a := { a with whitelist := a.whitelist <|> env.whitelist }
  match a.root, env.root with
  | none, some root => a.set "--root".toList root .root
  | _, _ => .ok a

def read (arguments : List Text) (env : Environment) : Except Ending Arguments :=
  match ({} : Arguments).readAfter arguments with
  | .ok a => a.complete env
  | .error e => .error e

def settings (a : Arguments) (program raw : Text) : Settings :=
  { root := a.root.getD (Settings.defaultRoot program)
    whitelist := ⟨raw⟩
    anchor := a.anchor.getD .letter
    extent := a.extent.getD .greedy
    dryRun := a.dryRun }

end Arguments

end LiteralPatch
