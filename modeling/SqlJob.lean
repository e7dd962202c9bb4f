import SqlJob.Engine.Mock
import SqlJob.Engine.Scripted
import SqlJob.Main
import SqlJob.Proofs.Engine.Transaction
import SqlJob.Proofs.Script.Rejoining
import SqlJob.Proofs.Script.Grouping
import SqlJob.Proofs.Operation.Setting
import SqlJob.Proofs.Operation.BatchSwitch
import SqlJob.Proofs.Operation.SetGrammar
import SqlJob.Proofs.Run.Session
import SqlJob.Proofs.Run.Deferral
import SqlJob.Proofs.Run.Options
import SqlJob.Proofs.Run.Stored
import SqlJob.Proofs.Session.Precedence
import SqlJob.Proofs.Engine.Dialect
import SqlJob.Proofs.Script.Joining
import SqlJob.Proofs.Script.Image
import SqlJob.Proofs.Script.Layout
import SqlJob.Proofs.Run.DialectInForce
import SqlJob.Proofs.Json.Token
import SqlJob.Proofs.Json.Written
import SqlJob.Proofs.Json.Result
import SqlJob.Proofs.Run.Summary
import SqlJob.Proofs.Program.LogFile
import SqlJob.Proofs.Program.Submission
import SqlJob.Proofs.Operation.Reading
import SqlJob.Proofs.Run.Verbatim
import SqlJob.Proofs.Script.ModeInference
import SqlJob.Proofs.Engine.RowCount
import SqlJob.Proofs.Sql.Lexing
import SqlJob.Proofs.Text.Upper
import SqlJob.Proofs.Operation.LeadingKeyword
import SqlJob.Proofs.Session.Overrides
import SqlJob.Proofs.Run.RowTotal
import SqlJob.Proofs.Run.FailureReport
import SqlJob.Proofs.Engine.PlanForest
