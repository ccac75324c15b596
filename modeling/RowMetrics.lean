import RowMetrics.Binary64.Basic
import RowMetrics.Binary64.Round
import RowMetrics.Decimal.Basic
import RowMetrics.Decimal.Shortest
import RowMetrics.Decimal.Notation
import RowMetrics.Decimal.Literal
import RowMetrics.Text.Utf8
import RowMetrics.Value.Integer
import RowMetrics.Binary64.Integral
import RowMetrics.Value.Basic
import RowMetrics.Json.Basic
import RowMetrics.Json.Reader
import RowMetrics.Value.Json
import RowMetrics.Clock
import RowMetrics.Text.Blank
import RowMetrics.Text.Upper
import RowMetrics.Query
import RowMetrics.Record
import RowMetrics.Rate.Store
import RowMetrics.Rate.Observe
import RowMetrics.Text.Suffix
import RowMetrics.ResultSet
import RowMetrics.Assemble.Plan
import RowMetrics.Assemble.Modes
import RowMetrics.Session
import RowMetrics.Text.Printable
import RowMetrics.Text.Quoted
import RowMetrics.Config.Error
import RowMetrics.Toml.Value
import RowMetrics.Toml.Scalar
import RowMetrics.Toml.Document
import RowMetrics.Toml.Reader
import RowMetrics.Config.Basic
import RowMetrics.Config.Validate
import RowMetrics.Config.Env
import RowMetrics.Config.Document
import RowMetrics.Source.Basic
import RowMetrics.Source.Script
import RowMetrics.Beat.Basic
import RowMetrics.Beat.Run
import RowMetrics.Source.Server
import RowMetrics.Cli
import RowMetrics.Main
import RowMetrics.Proofs.RateStoreMap
import RowMetrics.Proofs.RecordActions
import RowMetrics.Proofs.DispatchSpec
import RowMetrics.Proofs.DispatchSuccess
import RowMetrics.Proofs.DispatchErrors
import RowMetrics.Proofs.RowIsolation
import RowMetrics.Proofs.CycleFold
import RowMetrics.Proofs.DispatchRecords
import RowMetrics.Proofs.CellFaults
import RowMetrics.Proofs.ConfigChecks
import RowMetrics.Proofs.IntegerLiterals
import RowMetrics.Proofs.RecordLines
import RowMetrics.Proofs.Binary64Fields
import RowMetrics.Proofs.Binary64Rounding
import RowMetrics.Proofs.RateSigns
import RowMetrics.Proofs.ReadOnlyQueries
import RowMetrics.Proofs.HalfUpRounding
