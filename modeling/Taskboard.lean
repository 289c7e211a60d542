import Taskboard.Http.Service
import Taskboard.Main
import Taskboard.Report.Delivery
import Taskboard.Session
import Taskboard.Proofs.Checked
import Taskboard.Proofs.Store.Operations
import Taskboard.Proofs.Store.History
import Taskboard.Proofs.Http.Tracking
import Taskboard.Proofs.Number.Decimal
import Taskboard.Proofs.Number.Padded
import Taskboard.Proofs.Number.Written
import Taskboard.Proofs.Number.Hexadecimal
import Taskboard.Proofs.Json.Reading
import Taskboard.Proofs.Json.RoundTrip
import Taskboard.Proofs.Json.Object
import Taskboard.Proofs.Json.Short
import Taskboard.Proofs.Uuid.Text
import Taskboard.Proofs.Uuid.Spelling
import Taskboard.Proofs.Uuid.Loose
import Taskboard.Proofs.Report.Printing
import Taskboard.Proofs.Report.Document
import Taskboard.Proofs.Text.Width
import Taskboard.Proofs.Report.Widths
import Taskboard.Proofs.Report.Table
import Taskboard.Proofs.Http.Overlap
import Taskboard.Proofs.Store.Lifecycle
import Taskboard.Proofs.Store.Retention
import Taskboard.Proofs.Http.Url
import Taskboard.Proofs.Http.Target
import Taskboard.Proofs.Report.Agreement
import Taskboard.Proofs.Task.Filter
import Taskboard.Proofs.Task.Items
import Taskboard.Proofs.Http.Showing
import Taskboard.Proofs.Http.Trouble
import Taskboard.Proofs.Calendar.Gregorian
import Taskboard.Proofs.Calendar.StartTime
import Taskboard.Proofs.Text.Split
import Taskboard.Proofs.Report.LineBreak
import Taskboard.Proofs.Report.Alignment
import Taskboard.Proofs.Report.Restriction
import Taskboard.Proofs.Report.Spelling
import Taskboard.Proofs.Report.NormalForm
import Taskboard.Proofs.Report.Delivery
import Taskboard.Proofs.Text.Utf8
import Taskboard.Proofs.Cli.Console
import Taskboard.Proofs.Cli.Show
import Taskboard.Proofs.Cli.File
import Taskboard.Proofs.Report.Naming
import Taskboard.Proofs.Settings.EnvFile
import Taskboard.Proofs.Settings.Winner
import Taskboard.Proofs.Settings.Resolution
import Taskboard.Proofs.Settings.Loggers
