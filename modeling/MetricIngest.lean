import MetricIngest.Text.Split
import MetricIngest.Text.WhiteSpace
import MetricIngest.Text.Utf8
import MetricIngest.Text.Quoted
import MetricIngest.Unicode.Script
import MetricIngest.Unicode.CaseFolding
import MetricIngest.Number.Numeral
import MetricIngest.Number.Shortest
import MetricIngest.Json.Value
import MetricIngest.Random.ChaCha
import MetricIngest.Time.Calendar
import MetricIngest.Time.ManualClock
import MetricIngest.Record.Document
import MetricIngest.Pattern.Reader
import MetricIngest.Rules.Source
import MetricIngest.Line.Decoder
import MetricIngest.Settings.Source
import MetricIngest.Buffer.Faulty
import MetricIngest.Sink.Basic
import MetricIngest.Writer.Progress
import MetricIngest.Writer.TrialRun
import MetricIngest.Main
import MetricIngest.Proofs.Stream.Agreement
import MetricIngest.Proofs.Writer.Accounting
import MetricIngest.Proofs.Writer.Delivery
import MetricIngest.Proofs.Writer.Closing
import MetricIngest.Proofs.Writer.Cancellation
import MetricIngest.Proofs.Pipeline.Conservation
import MetricIngest.Proofs.Sink.Calls
import MetricIngest.Proofs.Sink.Answers
import MetricIngest.Proofs.Trial.Books
import MetricIngest.Proofs.Trial.Runs
import MetricIngest.Proofs.Trial.Session
import MetricIngest.Text.Ascii
import MetricIngest.Text.Layout
import MetricIngest.Line.Form
import MetricIngest.Rules.Alignment
import MetricIngest.Proofs.Line.Forms
import MetricIngest.Proofs.Rules.Decomposition
import MetricIngest.Proofs.Buffer.Order
import MetricIngest.Proofs.Line.Values
import MetricIngest.Buffer.Settling
import MetricIngest.Proofs.Buffer.Wakeups
import MetricIngest.Proofs.Record.IndexName
import MetricIngest.Proofs.Number.Nearest
import MetricIngest.Proofs.Number.Shortest
import MetricIngest.Json.Reader
import MetricIngest.Proofs.Json.NumberText
import MetricIngest.Proofs.Json.Reader
import MetricIngest.Proofs.Record.Document
import MetricIngest.Proofs.Sink.FileLog
import MetricIngest.Proofs.Writer.Progress
import MetricIngest.Proofs.Writer.Order
import MetricIngest.Proofs.Stream.Counting
import MetricIngest.Stream.Lock
import MetricIngest.Proofs.Stream.Progress
import MetricIngest.Proofs.Line.Outcome
import MetricIngest.Proofs.Rules.Entries
import MetricIngest.Proofs.Rules.Writing
import MetricIngest.Line.TimeText
import MetricIngest.Proofs.Line.Times
import MetricIngest.Proofs.Record.DatedIndex
import MetricIngest.Proofs.Rules.Names
import MetricIngest.Proofs.Line.Tags
import MetricIngest.Proofs.Writer.DueTime
import MetricIngest.Proofs.Sink.Keeping
import MetricIngest.Proofs.Sink.Losses
import MetricIngest.Proofs.Sink.Flushing
import MetricIngest.Proofs.Buffer.Transparent
import MetricIngest.Proofs.Writer.Schema
import MetricIngest.Proofs.Program.Loading
