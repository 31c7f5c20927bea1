import Tabula.Csv.Infer
import Tabula.Csv.Read
import Tabula.Csv.Record
import Tabula.Csv.Write
import Tabula.Decimal.Binary
import Tabula.Decimal.Format
import Tabula.Decimal.Read
import Tabula.Decimal.Shortest
import Tabula.Json.Read
import Tabula.Json.Value
import Tabula.Json.Write
import Tabula.Link
import Tabula.Query.Access
import Tabula.Query.Aggregate
import Tabula.Query.Block
import Tabula.Query.Compare
import Tabula.Query.Fault
import Tabula.Query.Filter
import Tabula.Query.Grid
import Tabula.Query.Group
import Tabula.Query.Groups
import Tabula.Query.Introsort
import Tabula.Query.Labels
import Tabula.Query.Method
import Tabula.Query.Run
import Tabula.Query.Select
import Tabula.Query.Sort
import Tabula.Query.Transform
import Tabula.Regex.Chars
import Tabula.Regex.Match
import Tabula.Regex.Program
import Tabula.Regex.Syntax
import Tabula.Session
import Tabula.Table.Array
import Tabula.Table.Cell
import Tabula.Table.Frame
import Tabula.Table.Records
import Tabula.Text
import Tabula.Text.Base64
import Tabula.Text.Blank
import Tabula.Text.CharNames
import Tabula.Text.Letters
import Tabula.Text.Quoted
import Tabula.Text.Unicode
import Tabula.Text.Utf8
import Tabula.Proofs.SessionState
import Tabula.Proofs.ProcessAnswer
import Tabula.Proofs.JsonReading
import Tabula.Proofs.RecordNumbers
import Tabula.Proofs.RecordLayout
import Tabula.Proofs.RecordsReadBack
import Tabula.Proofs.RuleCells
import Tabula.Proofs.LoadedFrames
import Tabula.Proofs.FilterStage
import Tabula.Proofs.TextRules
import Tabula.Proofs.CompareRules
import Tabula.Proofs.DoubleOrder
import Tabula.Proofs.CellOrder
import Tabula.Proofs.Introsort
import Tabula.Proofs.SortStage
import Tabula.Proofs.LabelSort
import Tabula.Proofs.GroupRows
import Tabula.Proofs.ColumnKinds
import Tabula.Proofs.GroupIndex
import Tabula.Proofs.GroupResult
import Tabula.Proofs.GroupSummaries
import Tabula.Proofs.GroupedRuns
import Tabula.Proofs.DownloadLinks
import Tabula.Proofs.Doubles
import Tabula.Proofs.CompareComplements
import Tabula.Proofs.RowOrder
import Tabula.Proofs.DoubleRounding
import Tabula.Proofs.DecimalReading
import Tabula.Proofs.ShortestDigits
import Tabula.Proofs.FloatText
import Tabula.Proofs.ConfigReload
import Tabula.Proofs.KindTable
