import SunLint.Dictionary.Reader
import SunLint.Files.Directory
import SunLint.Main
import SunLint.Proofs.Recovery.Advance
import SunLint.Proofs.Ledger.Recount
import SunLint.Proofs.Editor.Documents
import SunLint.Proofs.Parser.Depth
import SunLint.Proofs.Parser.Stable
import SunLint.Proofs.Parser.Total
import SunLint.Proofs.Parser.Compositional
import SunLint.Proofs.Parser.Records
import SunLint.Proofs.Parser.Cap
import SunLint.Proofs.Token.Account
import SunLint.Proofs.Parser.Clean
import SunLint.Proofs.Parser.Reads
import SunLint.Proofs.Parser.Lossless
import SunLint.Proofs.Parser.Misspelling
import SunLint.Proofs.Parser.Correction
import SunLint.Proofs.Tree.Down
import SunLint.Proofs.Token.Lines
import SunLint.Proofs.Parser.Coupling
import SunLint.Proofs.Parser.Coupled
import SunLint.Proofs.Parser.Moved
import SunLint.Proofs.Parser.Relocation
import SunLint.Proofs.Parser.Severity
import SunLint.Proofs.Parser.Omission
import SunLint.Proofs.Parser.Continuation
import SunLint.Proofs.Parser.Line
import SunLint.Proofs.Command.Verdict
import SunLint.Proofs.Tree.Canonical
import SunLint.Proofs.Parser.Precedence
import SunLint.Proofs.Parser.RoundTrip
import SunLint.Proofs.Parser.Layout
import SunLint.Proofs.Parser.Anchors
import SunLint.Proofs.Editor.Published
import SunLint.Proofs.Ledger.ReadBack
import SunLint.Proofs.Report.Pointing
import SunLint.Proofs.Dictionary.EditScript
import SunLint.Proofs.Dictionary.Nearest
import SunLint.Proofs.Parser.Repeated
import SunLint.Proofs.Token.Returns
import SunLint.Proofs.Parser.Strings
import SunLint.Proofs.Report.LineEnds
import SunLint.Proofs.Recovery.Suggestions
import SunLint.Proofs.Parser.Repairs
import SunLint.Proofs.Editor.QuickFix
import SunLint.Proofs.Token.Tidied
import SunLint.Proofs.Editor.ClosedLines
import SunLint.Proofs.Editor.Formatting
import SunLint.Proofs.Parser.Cut
import SunLint.Proofs.Parser.Sound
import SunLint.Proofs.Tree.Rearranged
import SunLint.Proofs.Editor.SoundLines
import SunLint.Proofs.Editor.Organizing
import SunLint.Proofs.Text.Columns
import SunLint.Proofs.Token.Neighbours
import SunLint.Proofs.Editor.Words
import SunLint.Proofs.Editor.Replacing
import SunLint.Proofs.Editor.Hovering
import SunLint.Proofs.Editor.HoveredTokens
import SunLint.Proofs.Token.Spaced
import SunLint.Proofs.Ledger.Ranking
import SunLint.Proofs.Report.Coherence
import SunLint.Proofs.Report.Fitting
import SunLint.Proofs.Report.Entries
