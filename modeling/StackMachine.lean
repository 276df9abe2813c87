import StackMachine.CommandLine.Arguments
import StackMachine.CommandLine.Run
import StackMachine.Program.Source
import StackMachine.Json.Document
import StackMachine.Machine.StatusName
import StackMachine.Main
import StackMachine.Program.Document
import StackMachine.Proofs.Arithmetic
import StackMachine.Proofs.Machine.Sweep
import StackMachine.Report
import StackMachine.Settings.Load
import StackMachine.Proofs.Machine.Reference
import StackMachine.Proofs.Machine.Atomicity
import StackMachine.Proofs.Json.Grammar
import StackMachine.Proofs.Json.Numbers
import StackMachine.Proofs.Json.Strings
import StackMachine.Proofs.Json.Tokens
import StackMachine.Proofs.Json.Passing
import StackMachine.Proofs.Program.Meaning
import StackMachine.Proofs.Program.Records
import StackMachine.Proofs.Program.Instructions
import StackMachine.Proofs.Json.Written
import StackMachine.Proofs.Program.RoundTrip
import StackMachine.Proofs.Machine.Composition
import StackMachine.Proofs.Machine.Session
import StackMachine.Proofs.Json.Extension
import StackMachine.Proofs.Json.Truncation
import StackMachine.Proofs.Program.Extension
import StackMachine.Proofs.Program.Truncation
import StackMachine.Proofs.Machine.Locality
import StackMachine.Proofs.Json.Values
import StackMachine.Proofs.Report.RoundTrip
import StackMachine.Proofs.CommandLine.Presentation
import StackMachine.Proofs.Toml.Strings
import StackMachine.Proofs.Toml.Lines
import StackMachine.Proofs.Settings.RoundTrip
import StackMachine.Proofs.CommandLine.Prediction
import StackMachine.Proofs.Machine.Expressions
import StackMachine.Proofs.Machine.Observer
import StackMachine.Proofs.Settings.Conversion
import StackMachine.Proofs.Settings.Layers
import StackMachine.Proofs.Machine.Lifecycle
import StackMachine.Proofs.Program.Canonical
import StackMachine.Proofs.CommandLine.Causes
import StackMachine.Proofs.Json.Form
import StackMachine.Proofs.Program.Refusal
import StackMachine.Proofs.Program.Elements
import StackMachine.Proofs.Division
import StackMachine.Proofs.Machine.Reporting
import StackMachine.Proofs.Machine.Operands
import StackMachine.Proofs.Decimal
import StackMachine.Proofs.Settings.Variables
