import Linewise.Main
import Linewise.Proofs.Document.Piping
import Linewise.Proofs.Prompt.Commit
import Linewise.Proofs.Rule.Block
import Linewise.Proofs.Rule.ErrorPlace
import Linewise.Proofs.Rule.Pruning
import Linewise.Proofs.Rule.Selection
import Linewise.Proofs.Rule.Streaming
import Linewise.Proofs.Pattern.Replacement
import Linewise.Proofs.Rule.Characters
import Linewise.Proofs.Rule.StatusValue
import Linewise.Proofs.Invocation.Modes
import Linewise.Proofs.Rule.Sections
import Linewise.Proofs.Rule.LineAddress
import Linewise.Proofs.Unicode.Offset
import Linewise.Proofs.Paint
import Linewise.Proofs.Prompt.Editing
import Linewise.Proofs.Pattern.Matches
import Linewise.Proofs.Rule.Substitution
import Linewise.Proofs.Rule.Nesting
import Linewise.Proofs.Rule.NumberLimit
import Linewise.Proofs.Prompt.Redraw
import Linewise.Proofs.Rule.Alternatives
import Linewise.Proofs.Rule.Truncation
import Linewise.Proofs.Document.Sorting
import Linewise.Proofs.Prompt.Caret
import Linewise.Proofs.Rule.Neighbours
import Linewise.Proofs.Rule.FreeText
import Linewise.Proofs.Rule.Progress
