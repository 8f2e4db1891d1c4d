import Passbook.Main
import Passbook.Proofs.Account.Advice
import Passbook.Proofs.Account.Movement
import Passbook.Proofs.CommandLine.Arguments
import Passbook.Proofs.Console
import Passbook.Proofs.Decimal.Currency
import Passbook.Proofs.Decimal.Nearest
import Passbook.Proofs.Decimal.Sum
import Passbook.Proofs.Decimal.Text
import Passbook.Proofs.Document.Decode
import Passbook.Proofs.Document.Json
import Passbook.Proofs.Export
import Passbook.Proofs.FileTree
import Passbook.Proofs.Ledger
import Passbook.Proofs.Operation
import Passbook.Proofs.Placeholder
import Passbook.Proofs.Plan.Files
import Passbook.Proofs.Plan.Ready
import Passbook.Proofs.Plan.Times
import Passbook.Proofs.Program.ExitStatus
import Passbook.Proofs.Program.Flags
import Passbook.Proofs.Program.Sources
import Passbook.Proofs.Record
import Passbook.Proofs.Session.Accounting
import Passbook.Proofs.Session.Composition
import Passbook.Proofs.Session.Conservation
import Passbook.Proofs.Session.Failure
import Passbook.Proofs.Session.Refusals
import Passbook.Proofs.Session.Transcript
import Passbook.Proofs.SessionFile
import Passbook.Proofs.Settings
import Passbook.Proofs.Solvency
import Passbook.Proofs.Statement.Document
import Passbook.Proofs.Statement.Rows
import Passbook.Proofs.Statement.Views
import Passbook.Proofs.Storage
import Passbook.Proofs.Toml.Lines
import Passbook.Proofs.Toml.Table
import Passbook.Proofs.Toml.Text
