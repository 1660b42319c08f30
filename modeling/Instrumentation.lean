import Instrumentation.CommandLine.Answer
import Instrumentation.CommandLine.Arguments
import Instrumentation.CommandLine.Commands
import Instrumentation.CommandLine.ConfigDirectory
import Instrumentation.CommandLine.Emission
import Instrumentation.CommandLine.Logging
import Instrumentation.CommandLine.Request
import Instrumentation.CommandLine.Run
import Instrumentation.Effect
import Instrumentation.Files.Path
import Instrumentation.Files.Tree
import Instrumentation.Format.Grid
import Instrumentation.Format.Json
import Instrumentation.Format.Yaml.Block
import Instrumentation.Format.Yaml.Implicit
import Instrumentation.Format.Yaml.Scalar
import Instrumentation.Guard
import Instrumentation.Log
import Instrumentation.Main
import Instrumentation.Policy.Basic
import Instrumentation.Policy.BuiltIns
import Instrumentation.Policy.Document
import Instrumentation.Policy.Listing
import Instrumentation.Policy.Lookup
import Instrumentation.Policy.Report
import Instrumentation.Policy.Resolve
import Instrumentation.Policy.Rule
import Instrumentation.Policy.Store
import Instrumentation.Policy.Table
import Instrumentation.Policy.Vocabulary
import Instrumentation.Telemetry.Fault
import Instrumentation.Telemetry.Access
import Instrumentation.Telemetry.LineFile
import Instrumentation.Telemetry.Name
import Instrumentation.Telemetry.Record
import Instrumentation.Telemetry.Sink
import Instrumentation.Telemetry.Span
import Instrumentation.Text.Blank
import Instrumentation.Text.Decimal
import Instrumentation.Text.Digit
import Instrumentation.Text.Extending
import Instrumentation.Text.Invisible
import Instrumentation.Text.Cut
import Instrumentation.Text.Quoted
import Instrumentation.Text.Width
import Instrumentation.Time.Calendar
import Instrumentation.Time.Clock
import Instrumentation.Time.Written
import Instrumentation.Xml.Character
import Instrumentation.Xml.CharacterData
import Instrumentation.Xml.Content
import Instrumentation.Xml.Error
import Instrumentation.Xml.Lexeme
import Instrumentation.Xml.Position
import Instrumentation.Xml.Reading
import Instrumentation.Xml.Scan
import Instrumentation.Xml.Token
import Instrumentation.Proofs.Policy.Declarations
import Instrumentation.Proofs.Telemetry.Delivery
import Instrumentation.Proofs.Telemetry.Race
import Instrumentation.Proofs.Telemetry.History
import Instrumentation.Proofs.Policy.Declared
import Instrumentation.Proofs.Policy.DisabledClass
import Instrumentation.Proofs.Policy.Extent
import Instrumentation.Proofs.Policy.Reloads
import Instrumentation.Proofs.Policy.FailClosed
import Instrumentation.Proofs.Policy.Remarks
import Instrumentation.Proofs.Policy.UnknownMarkup
import Instrumentation.Proofs.Policy.ReportReading
import Instrumentation.Proofs.Telemetry.Containment
import Instrumentation.Proofs.Policy.StoreHistory
import Instrumentation.Proofs.Telemetry.RecordReading
import Instrumentation.Proofs.Files.Appending
import Instrumentation.Proofs.Format.OneLine
import Instrumentation.Proofs.Telemetry.LineHistory
import Instrumentation.Proofs.Xml.Lexemes
import Instrumentation.Proofs.Xml.ReadSize
import Instrumentation.Proofs.Xml.Prolog
import Instrumentation.Proofs.Xml.TreeSize
import Instrumentation.Proofs.Policy.Expansion
import Instrumentation.Proofs.Xml.LimitChoice
import Instrumentation.Proofs.Guard.Reached
import Instrumentation.Proofs.Policy.Additions
import Instrumentation.Proofs.Guard.Levels
import Instrumentation.Proofs.CommandLine.Agreement
import Instrumentation.Proofs.Telemetry.DisplayName
import Instrumentation.Proofs.Text.Numerals
import Instrumentation.Proofs.Policy.NumberReading
import Instrumentation.Proofs.Policy.Features
import Instrumentation.Proofs.Policy.Interchange
import Instrumentation.Proofs.Policy.Independence
import Instrumentation.Proofs.Xml.Addresses
import Instrumentation.Proofs.Policy.LookupOrder
import Instrumentation.Proofs.Policy.RuleInduction
import Instrumentation.Proofs.Policy.RuleTables
import Instrumentation.Proofs.Policy.ListingRows
import Instrumentation.Proofs.Telemetry.Tracking
