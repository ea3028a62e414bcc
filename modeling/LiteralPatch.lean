import LiteralPatch.CommandLine.Invocation
import LiteralPatch.Main
import LiteralPatch.Proofs.Between
import LiteralPatch.Proofs.Literal.Survival
import LiteralPatch.Proofs.RulePair
import LiteralPatch.Proofs.FileSystem.Tree
import LiteralPatch.Proofs.FileSystem.Amend
import LiteralPatch.Proofs.Run.Turn
import LiteralPatch.Proofs.Run.Edits
import LiteralPatch.Proofs.Run.Failure
import LiteralPatch.Proofs.Run.DryRun
import LiteralPatch.Proofs.FileSystem.Locations
import LiteralPatch.Proofs.FileSystem.Visits
import LiteralPatch.Proofs.FileSystem.Below
import LiteralPatch.Proofs.Run.Coverage
import LiteralPatch.Proofs.Run.Order
import LiteralPatch.Proofs.Patch
import LiteralPatch.Proofs.Repetition
import LiteralPatch.Proofs.CommandLine.Console
import LiteralPatch.Proofs.FileSystem.Written
import LiteralPatch.Proofs.FirstCharacter
import LiteralPatch.Proofs.Run.ReadBack
import LiteralPatch.Proofs.Run.Rerun
import LiteralPatch.Proofs.Literal.Lexer
import LiteralPatch.Proofs.LetterRange.LastRange
import LiteralPatch.Proofs.Declaration.Extent
import LiteralPatch.Proofs.Declaration.Again
import LiteralPatch.Proofs.Composition
import LiteralPatch.Proofs.Points
import LiteralPatch.Proofs.Hits
import LiteralPatch.Proofs.Literal.Symbol
import LiteralPatch.Proofs.Prompt
import LiteralPatch.Proofs.LineCount
import LiteralPatch.Proofs.FileKind
import LiteralPatch.Proofs.Literal.FreeLetter
import LiteralPatch.Proofs.Expression
import LiteralPatch.Proofs.Log.Filter
import LiteralPatch.Proofs.Pattern.Size
import LiteralPatch.Proofs.Text.Case
import LiteralPatch.Proofs.Text.Category
import LiteralPatch.Proofs.Text.ByteRange
import LiteralPatch.Proofs.Text.Property
