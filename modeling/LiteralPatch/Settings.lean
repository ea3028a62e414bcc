import LiteralPatch.Declaration
import LiteralPatch.Path
import LiteralPatch.Rule

namespace LiteralPatch

inductive FileKind
  | targeted
  | generic
  deriving DecidableEq, Repr

structure Settings where
  root : Text
  whitelist : Whitelist
  anchor : Anchor := .letter
  extent : ParenExtent := .greedy
  dryRun : Bool := false
  targetFile : Text := "Extensions.cs".toList
  extension : Text := "cs".toList
  deriving DecidableEq, Repr

structure Patch extends Edit where
  ruleHits : List (Quote × Nat)
  deriving DecidableEq, Repr

namespace Settings

def defaultRootName : Text := "Il2CppInspector.Common".toList

def defaultRoot (program : Text) : Text := Path.join (Path.parent program) defaultRootName

/-- Only the name of a file decides its kind. -/
def kind? (cfg : Settings) (path : Text) : Option FileKind :=
  (Path.fileName? path).bind fun name ↦
    if name = cfg.targetFile then some .targeted
    else if Path.extension? name = some cfg.extension then some .generic
    else none

def patch (cfg : Settings) (kind : FileKind) (content : Text) : Patch :=
  match kind with
  | .targeted => { Declaration.setDefault cfg.extent cfg.whitelist content with ruleHits := [] }
  | .generic =>
    let (out, ruleHits) := Rule.applyEach (Rule.both cfg.whitelist cfg.anchor) content
    { content := out, hits := Rule.totalHits ruleHits, ruleHits }

end Settings

end LiteralPatch
