import Layering.Main
import Layering.Proofs.Source.Positions
import Layering.Proofs.Policy.Layers
import Layering.Proofs.Findings
import Layering.Proofs.Graph.Chains
import Layering.Proofs.Verdicts
import Layering.Json.Reader
import Layering.Proofs.Source.Extraction
import Layering.Proofs.Source.Readings
import Layering.Proofs.Stability
import Layering.Proofs.Report.Canonical
import Layering.Proofs.Report.Independence
import Layering.Proofs.Report.Locality
import Layering.Proofs.Source.Comments
import Layering.Proofs.Report.Completeness
import Layering.Proofs.Policy.Switches
import Layering.Proofs.Discovery.SourceRoot
import Layering.Proofs.Discovery.Spelling
import Layering.Proofs.Policy.Invariants
import Layering.Proofs.Report.Selection
import Layering.Proofs.Discovery.Exactness
import Layering.Proofs.CommandLine.Outcome
import Layering.Proofs.Report.Reading
import Layering.Proofs.Resolution.Meaning
import Layering.Proofs.Report.Naming
import Layering.Proofs.Policy.Standard
import Layering.Proofs.Policy.BuiltinRules
import Layering.Proofs.CommandLine.WrittenPolicy
import Layering.Proofs.Classification
import Layering.Proofs.Source.LineEndings
import Layering.Proofs.Source.ByteOrderMark
import Layering.Proofs.Source.Blanking
import Layering.Proofs.Text.LineIndex
import Layering.Proofs.Report.RequiredFiles
import Layering.Proofs.Report.Grouping
import Layering.Proofs.Report.Suggestions
import Layering.Proofs.Report.RoleContent
import Layering.Proofs.Report.Compact
import Layering.Proofs.Graph.Memory
import Layering.Proofs.Report.Styles
import Layering.Proofs.Report.ForbiddenPaths
import Layering.Proofs.Path.Display
import Layering.Proofs.Resolution.Machine
import Layering.Proofs.Source.Agreement
