import Letterhead.Log.Format
import Letterhead.Main
import Letterhead.Header.Apply
import Letterhead.Proofs.Comment.Seam
import Letterhead.Proofs.Header.Existing
import Letterhead.Proofs.Header.Conservation
import Letterhead.Proofs.Header.Enforcement
import Letterhead.Proofs.Header.History
import Letterhead.Proofs.Comment.BlankLine
import Letterhead.Proofs.Header.Keywords
import Letterhead.Proofs.Header.Repetition
import Letterhead.Proofs.Comment.LastBlock
import Letterhead.Proofs.Text.Lower
import Letterhead.Proofs.Header.LineEnding
import Letterhead.Proofs.Tree.Contents
import Letterhead.Proofs.Definition.FileName
import Letterhead.Proofs.Batch.DryRun
import Letterhead.Proofs.Header.RoundTrip
import Letterhead.Proofs.Buffer.Edits
import Letterhead.Proofs.Comment.Grammar
import Letterhead.Proofs.Header.Atomicity
import Letterhead.Proofs.Batch.Lookup
import Letterhead.Proofs.Text.Trimmed
import Letterhead.Proofs.Config.Reload
import Letterhead.Proofs.Config.Layers
import Letterhead.Proofs.Pattern.Advance
import Letterhead.Proofs.Language.Prolog
import Letterhead.Proofs.Header.InterpreterLine
import Letterhead.Proofs.Header.Declaration
import Letterhead.Proofs.Comment.Split
import Letterhead.Proofs.Text.Line
import Letterhead.Proofs.Comment.Boundary
import Letterhead.Proofs.Comment.BreakStyle
import Letterhead.Proofs.Header.Removal
import Letterhead.Proofs.Header.Present
import Letterhead.Proofs.Batch.Cancellation
import Letterhead.Proofs.Batch.Order
import Letterhead.Proofs.Definition.Written
import Letterhead.Proofs.Language.LongestExtension
import Letterhead.Proofs.Template.Expansion
import Letterhead.Proofs.Buffer.FileBytes
import Letterhead.Proofs.Config.Refusal
import Letterhead.Proofs.Config.GivenKeywords
import Letterhead.Proofs.Project.Root
import Letterhead.Proofs.Text.NormalForm
import Letterhead.Proofs.Diff.Preview
import Letterhead.Proofs.Batch.Reports
