import SourceGrade.Config.Shipped
import SourceGrade.Proofs.Function.Body
import SourceGrade.Proofs.LineEnds.Report
import SourceGrade.Proofs.Metric.BlockComment
import SourceGrade.Proofs.Project.Pool
import SourceGrade.Proofs.Report.Leniency
import SourceGrade.Proofs.Report.Location
import SourceGrade.Proofs.Report.Totals
import SourceGrade.Report.Save
import SourceGrade.Service.Container
import SourceGrade.Service.Serve
import SourceGrade.Proofs.File.Path
import SourceGrade.Proofs.File.System
import SourceGrade.Proofs.Text.Utf8
import SourceGrade.Proofs.File.Scan
import SourceGrade.Proofs.Config.Environment
import SourceGrade.Proofs.Config.Load
import SourceGrade.Proofs.Project.Directory
import SourceGrade.Proofs.Service.Quota
import SourceGrade.Proofs.Service.Workspace
import SourceGrade.Proofs.Function.Balance
import SourceGrade.Proofs.Function.Signature
import SourceGrade.Proofs.Service.Container
import SourceGrade.Proofs.Service.Components
import SourceGrade.Proofs.Pattern.Count
import SourceGrade.Proofs.Report.Penalties
import SourceGrade.Proofs.Function.Complexity
import SourceGrade.Proofs.First
import SourceGrade.Proofs.Number.Monotone
import SourceGrade.Proofs.Metric.Fragments
import SourceGrade.Proofs.Metric.Duplication
import SourceGrade.Proofs.Metric.Copies
import SourceGrade.Proofs.Pattern.Scan
import SourceGrade.Proofs.Function.Discovery
import SourceGrade.Proofs.Pattern.Named
import SourceGrade.Proofs.Function.Lead
import SourceGrade.Proofs.Function.Declaration
import SourceGrade.Proofs.Occurrence
import SourceGrade.Proofs.File.Collection
import SourceGrade.Proofs.Report.Unescape
import SourceGrade.Proofs.Report.Table
import SourceGrade.Proofs.Language.Filename
import SourceGrade.Proofs.Service.Batch
import SourceGrade.Proofs.Metric.Quote
import SourceGrade.Proofs.Metric.ImportGroup
import SourceGrade.Proofs.Metric.Nesting
import SourceGrade.Proofs.Report.Parts
import SourceGrade.Proofs.Pattern.Ending
import SourceGrade.Proofs.Function.Ending
import SourceGrade.Proofs.Report.Emphasis
import SourceGrade.Proofs.Report.Flagged
import SourceGrade.Proofs.Metric.BlockEnd
import SourceGrade.Proofs.Language.Span
