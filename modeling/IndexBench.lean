import IndexBench.Address
import IndexBench.Catalog
import IndexBench.Command.Arguments
import IndexBench.Command.Benchmark
import IndexBench.Command.Exit
import IndexBench.Command.Prepare
import IndexBench.Command.Usage
import IndexBench.Configuration
import IndexBench.Console
import IndexBench.Dataset
import IndexBench.Disk
import IndexBench.Engine.Interference
import IndexBench.Engine.Request
import IndexBench.Event
import IndexBench.Export
import IndexBench.Failure
import IndexBench.FileState
import IndexBench.Glob
import IndexBench.IndexOrder
import IndexBench.Loading
import IndexBench.Machine
import IndexBench.Main
import IndexBench.Measurement
import IndexBench.Place
import IndexBench.Plan
import IndexBench.Proofs.Glob.Meaning
import IndexBench.Proofs.Glob.Tokens
import IndexBench.Proofs.Regex.Language
import IndexBench.Proofs.Regex.Reading
import IndexBench.Proofs.Regex.Route
import IndexBench.Proofs.Run.Bracket
import IndexBench.Proofs.Run.Kinds
import IndexBench.Proofs.Run.Printing
import IndexBench.Proofs.Run.Trace
import IndexBench.Proofs.Store.Counting
import IndexBench.Proofs.Store.Enforcement
import IndexBench.Proofs.Store.Reachable
import IndexBench.RangeQuery
import IndexBench.Record.Cursor
import IndexBench.Regex.Basic
import IndexBench.Regex.Boundary
import IndexBench.Regex.Bracket
import IndexBench.Regex.CharSet
import IndexBench.Regex.Escape
import IndexBench.Regex.Fault
import IndexBench.Regex.Flags
import IndexBench.Regex.Layout
import IndexBench.Regex.Pattern
import IndexBench.Regex.Property
import IndexBench.Regex.Shape
import IndexBench.Regex.Size
import IndexBench.Regex.Spans
import IndexBench.Row
import IndexBench.Script
import IndexBench.Series
import IndexBench.Server.Connection
import IndexBench.Server.Reply
import IndexBench.Server.Statement
import IndexBench.Server.Url
import IndexBench.Settings
import IndexBench.Store.BuiltIn
import IndexBench.Store.Connection
import IndexBench.Store.Database
import IndexBench.Store.Image
import IndexBench.Store.Kept
import IndexBench.Store.Locator
import IndexBench.Store.Name
import IndexBench.Store.Statement
import IndexBench.Summary
import IndexBench.TableName
import IndexBench.Text.Fixed
import IndexBench.Text.Integer
import IndexBench.Text.Percent
import IndexBench.Text.Quoted
import IndexBench.Text.Split
import IndexBench.Text.Utf8
import IndexBench.Toml.Document
import IndexBench.Toml.Number
import IndexBench.Toml.Text
import IndexBench.Toml.Value
import IndexBench.Unicode.Age
import IndexBench.Unicode.Binary
import IndexBench.Unicode.CaseOrbit
import IndexBench.Unicode.Category
import IndexBench.Unicode.GraphemeBreak
import IndexBench.Unicode.Ranges
import IndexBench.Unicode.Recent
import IndexBench.Unicode.Script
import IndexBench.Unicode.SentenceBreak
import IndexBench.Unicode.Unprintable
import IndexBench.Unicode.WordBreak
import IndexBench.World
import IndexBench.Proofs.Run.Completeness
import IndexBench.Proofs.Run.Transcript
import IndexBench.Proofs.Run.Interruption
import IndexBench.Proofs.Text.Lines
import IndexBench.Proofs.Run.Readout
import IndexBench.Proofs.Store.Orderly
import IndexBench.Proofs.Store.Selection
import IndexBench.Proofs.Text.Numeral
import IndexBench.Proofs.Text.Encoding
import IndexBench.Proofs.Record.Fields
import IndexBench.Proofs.Record.Runs
import IndexBench.Proofs.Catalog.Format
import IndexBench.Proofs.Store.Schema
import IndexBench.Proofs.Store.Recreation
import IndexBench.Proofs.Store.Forcing
import IndexBench.Proofs.Dataset.Batches
import IndexBench.Proofs.Dataset.Rows
import IndexBench.Proofs.Loading.Result
import IndexBench.Proofs.Run.Reporting
import IndexBench.Proofs.Record.Cut
import IndexBench.Proofs.Dataset.Stream
import IndexBench.Proofs.Dataset.Exposure
import IndexBench.Proofs.Store.History
import IndexBench.Proofs.Glob.Scan
import IndexBench.Proofs.Catalog.Layout
import IndexBench.Proofs.Store.Settling
import IndexBench.Proofs.Store.Statements
import IndexBench.Proofs.Run.Untimed
import IndexBench.Proofs.Run.Repetition
import IndexBench.Proofs.Glob.Acceptance
import IndexBench.Proofs.Loading.Requests
import IndexBench.Proofs.Record.Numbering
import IndexBench.Proofs.Export.Reading
import IndexBench.Proofs.Disk.Files
import IndexBench.Proofs.Export.Lossless
import IndexBench.Proofs.Glob.Leading
import IndexBench.Proofs.Server.Parameters
import IndexBench.Proofs.Server.Exchanges
import IndexBench.Proofs.Run.Refusal
import IndexBench.Proofs.Server.Closing
import IndexBench.Proofs.Command.Spelling
import IndexBench.Proofs.Command.Arguments
import IndexBench.Proofs.Command.Reading
import IndexBench.Proofs.Command.Synopsis
import IndexBench.Proofs.Command.Values
import IndexBench.Proofs.Command.Steps
import IndexBench.Proofs.Command.Precedence
import IndexBench.Proofs.Settings.Document
import IndexBench.Proofs.Settings.Files
import IndexBench.Proofs.Settings.Layers
import IndexBench.Proofs.Readings
