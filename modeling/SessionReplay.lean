import SessionReplay.Batch
import SessionReplay.Body.Base64
import SessionReplay.Body.Basic
import SessionReplay.Body.FormText
import SessionReplay.Calendar
import SessionReplay.Capture.Archive
import SessionReplay.Capture.Decode
import SessionReplay.Capture.Document
import SessionReplay.CaptureFile
import SessionReplay.CommandLine.Basic
import SessionReplay.CommandLine.Convert
import SessionReplay.CommandLine.Read
import SessionReplay.CommandLine.Word
import SessionReplay.CommandLine.Wording
import SessionReplay.Conversion
import SessionReplay.Decimal.Nearest
import SessionReplay.Decimal.Notation
import SessionReplay.Decimal.Shortest
import SessionReplay.Disk.Basic
import SessionReplay.Disk.Fault
import SessionReplay.Disk.Faulty
import SessionReplay.Disk.Place
import SessionReplay.Disk.Tree
import SessionReplay.DomainFilter
import SessionReplay.Headers
import SessionReplay.Idna.Domain
import SessionReplay.Idna.Mapping
import SessionReplay.Idna.Punycode
import SessionReplay.Instant.Basic
import SessionReplay.Instant.Rfc3339
import SessionReplay.Json.Fault
import SessionReplay.Json.Number
import SessionReplay.Json.Reader
import SessionReplay.Json.Record
import SessionReplay.Json.Shape
import SessionReplay.Json.Skip
import SessionReplay.Json.Text
import SessionReplay.Log
import SessionReplay.Main
import SessionReplay.Preferences.Basic
import SessionReplay.Preferences.Load
import SessionReplay.Preferences.Read
import SessionReplay.Problem
import SessionReplay.Program
import SessionReplay.Proofs.Batch.Lockstep
import SessionReplay.Proofs.Batch.Pace
import SessionReplay.Proofs.Batch.Partition
import SessionReplay.Proofs.Batch.Threshold
import SessionReplay.Proofs.Body.Base64
import SessionReplay.Proofs.Body.Dispatch
import SessionReplay.Proofs.Body.Encoded
import SessionReplay.Proofs.Body.Form
import SessionReplay.Proofs.Body.FormText
import SessionReplay.Proofs.Capture.Checked
import SessionReplay.Proofs.Capture.FirstFault
import SessionReplay.Proofs.Capture.Spelling
import SessionReplay.Proofs.CommandLine.Choices
import SessionReplay.Proofs.CommandLine.Line
import SessionReplay.Proofs.CommandLine.Precedence
import SessionReplay.Proofs.CommandLine.Values
import SessionReplay.Proofs.Conversion.Calls
import SessionReplay.Proofs.Conversion.Independence
import SessionReplay.Proofs.Conversion.Outcome
import SessionReplay.Proofs.Conversion.Pacing
import SessionReplay.Proofs.Conversion.ReadBack
import SessionReplay.Proofs.Conversion.Replay
import SessionReplay.Proofs.Disk.Calm
import SessionReplay.Proofs.Disk.Faulty
import SessionReplay.Proofs.Disk.Folders
import SessionReplay.Proofs.Disk.Ordinary
import SessionReplay.Proofs.Disk.Place
import SessionReplay.Proofs.Disk.Tree
import SessionReplay.Proofs.Disk.WellFormed
import SessionReplay.Proofs.DomainFilter.Labels
import SessionReplay.Proofs.DomainFilter.Lists
import SessionReplay.Proofs.DomainFilter.Selection
import SessionReplay.Proofs.DomainFilter.Spelling
import SessionReplay.Proofs.Headers
import SessionReplay.Proofs.Idna.Domain
import SessionReplay.Proofs.Idna.Punycode
import SessionReplay.Proofs.Json.Brackets
import SessionReplay.Proofs.Json.Number
import SessionReplay.Proofs.Json.Plain
import SessionReplay.Proofs.Json.Record
import SessionReplay.Proofs.Json.Skip
import SessionReplay.Proofs.Json.Text
import SessionReplay.Proofs.Outcome
import SessionReplay.Proofs.Preferences.Document
import SessionReplay.Proofs.Preferences.Fallback
import SessionReplay.Proofs.Preferences.Loaders
import SessionReplay.Proofs.Program.AllOrNothing
import SessionReplay.Proofs.Program.Calm
import SessionReplay.Proofs.Program.Frame
import SessionReplay.Proofs.Program.Log
import SessionReplay.Proofs.Script.Lexing
import SessionReplay.Proofs.Script.Literal
import SessionReplay.Proofs.Script.Plan
import SessionReplay.Proofs.Script.Properties
import SessionReplay.Proofs.Script.ReadBack
import SessionReplay.Proofs.Script.Run
import SessionReplay.Proofs.Script.Sleep
import SessionReplay.Proofs.Script.Spelling
import SessionReplay.Proofs.Script.Template
import SessionReplay.Proofs.Script.Token
import SessionReplay.Proofs.ScriptFile.Atomic
import SessionReplay.Proofs.Text.Blank
import SessionReplay.Proofs.Text.LetterCase
import SessionReplay.Proofs.Text.Parts
import SessionReplay.Proofs.Text.Utf8
import SessionReplay.Proofs.Toml.Keys
import SessionReplay.Proofs.Unicode.Normal
import SessionReplay.Proofs.Url.Host
import SessionReplay.Proofs.Url.Ipv4
import SessionReplay.Proofs.Url.Ipv6
import SessionReplay.Proofs.Url.Percent
import SessionReplay.Script.Basic
import SessionReplay.Script.Comment
import SessionReplay.Script.Literal
import SessionReplay.Script.Render
import SessionReplay.ScriptFile
import SessionReplay.Settings
import SessionReplay.Shape
import SessionReplay.Text.Blank
import SessionReplay.Text.Digit
import SessionReplay.Text.Quoted
import SessionReplay.Text.Utf8
import SessionReplay.Toml.Number
import SessionReplay.Toml.Read
import SessionReplay.Toml.Scan
import SessionReplay.Toml.Text
import SessionReplay.Toml.Value
import SessionReplay.Unicode.Canonical
import SessionReplay.Unicode.CombiningClass
import SessionReplay.Unicode.Direction
import SessionReplay.Unicode.Joining
import SessionReplay.Unicode.Mark
import SessionReplay.Unicode.Normal
import SessionReplay.Unicode.Runs
import SessionReplay.Unicode.Unprintable
import SessionReplay.Url.Basic
import SessionReplay.Url.Fault
import SessionReplay.Url.Host
import SessionReplay.Url.Ipv4
import SessionReplay.Url.Ipv6
import SessionReplay.Url.Parse
import SessionReplay.Url.Path
import SessionReplay.Url.Percent
import SessionReplay.Word64
