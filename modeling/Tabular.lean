import Tabular.Main
import Tabular.Pattern.Atom
import Tabular.Pattern.Set
import Tabular.Pattern.WellFormed
import Tabular.Proofs.Delimited.NamedDelimiter
import Tabular.Proofs.Job
import Tabular.Proofs.Melt.Cells
import Tabular.Proofs.Melt.Rectangle
import Tabular.Proofs.Melt.Requests
import Tabular.Proofs.Projection.LineNumbers
import Tabular.Proofs.Projection.Stored
import Tabular.Proofs.Sql.Decoder
import Tabular.Proofs.Delimited.Appending
import Tabular.Proofs.Projection.Account
import Tabular.Proofs.Projection.Composition
import Tabular.Proofs.Report.Decoder
import Tabular.Proofs.CommandLine.Notes
import Tabular.Proofs.Delimited.SecondMark
import Tabular.Proofs.Sql.Literal
import Tabular.Proofs.Delimited.UniqueReading
import Tabular.Proofs.Melt.Projections
import Tabular.Proofs.Projection.RowByRow
import Tabular.Proofs.CommandLine.OutputOption
import Tabular.Proofs.CommandLine.Destination
import Tabular.Proofs.Delimited.BlankLines
import Tabular.Proofs.Delimited.Progress
