import MessageExpansion.Main
import MessageExpansion.Proofs.Catalog.Document
import MessageExpansion.Proofs.Command.Concatenation
import MessageExpansion.Proofs.Command.Containment
import MessageExpansion.Proofs.Command.Gathering
import MessageExpansion.Proofs.Command.Renumbering
import MessageExpansion.Proofs.Edit.Pieces
import MessageExpansion.Proofs.Expansion.Constants
import MessageExpansion.Proofs.Expansion.Naming
import MessageExpansion.Proofs.Expansion.Simulation
import MessageExpansion.Proofs.Expansion.Tracing
import MessageExpansion.Proofs.HoistedFunctions.History
import MessageExpansion.Proofs.Key.Shape
import MessageExpansion.Proofs.Lint.Agreement
import MessageExpansion.Proofs.Lint.Ordering
import MessageExpansion.Proofs.Lint.Replacement
import MessageExpansion.Proofs.Pattern.Roundtrip
import MessageExpansion.Proofs.Pattern.Safety
import MessageExpansion.Proofs.PositionMap.Document
import MessageExpansion.Proofs.PositionMap.Reachable
import MessageExpansion.Proofs.Renderer.Meaning
import MessageExpansion.Proofs.Renderer.Outcome
import MessageExpansion.Proofs.Report.Caret
import MessageExpansion.Proofs.Scan.Mentions
