import Forklift.Command.Action
import Forklift.Command.Direction
import Forklift.Command.Gate
import Forklift.Command.Interpretation
import Forklift.Command.Json
import Forklift.Command.LeadingZeros
import Forklift.Command.Magnitude
import Forklift.Command.Rejection
import Forklift.Command.Step
import Forklift.Command.Token
import Forklift.Command.TokenStream
import Forklift.Command.Validation
import Forklift.CommandLine.Arguments
import Forklift.CommandLine.Execution
import Forklift.Csv.ReadBack
import Forklift.Csv.Record
import Forklift.Csv.Table
import Forklift.Csv.Written
import Forklift.Csv.WrittenTable
import Forklift.Diagnostic.Basic
import Forklift.Diagnostic.Code
import Forklift.Diagnostic.Context
import Forklift.Diagnostic.Json
import Forklift.Diagnostic.Span
import Forklift.Inventory.Backoff
import Forklift.Inventory.Cache
import Forklift.Inventory.CacheHistory
import Forklift.Inventory.CountedRetry
import Forklift.Inventory.Equipment
import Forklift.Inventory.Error
import Forklift.Inventory.File
import Forklift.Inventory.FileTree
import Forklift.Inventory.Normalize
import Forklift.Inventory.Path
import Forklift.Inventory.Retry
import Forklift.Json.Numeral
import Forklift.Json.Printer
import Forklift.Json.Reader
import Forklift.Json.Record
import Forklift.Json.Token
import Forklift.Json.Tree
import Forklift.Json.Value
import Forklift.Main
import Forklift.Proofs.Command.Language
import Forklift.Proofs.Command.Layout
import Forklift.Proofs.Command.Rendering
import Forklift.Proofs.Inventory.Noted
import Forklift.Proofs.Inventory.Retries
import Forklift.Proofs.Inventory.Shape
import Forklift.Proofs.Inventory.Staleness
import Forklift.Proofs.Inventory.Tables
import Forklift.Proofs.Session.Chronicle
import Forklift.Session.Basic
import Forklift.Session.Batch
import Forklift.Session.History
import Forklift.Session.Ledger
import Forklift.Session.Notice
import Forklift.Session.Report
import Forklift.Session.Timestamp
import Forklift.Terminal.Colour
import Forklift.Terminal.Label
import Forklift.Terminal.Listing
import Forklift.Terminal.Output
import Forklift.Text.Bytes
import Forklift.Text.Quoted
import Forklift.Text.Visible
import Forklift.Proofs.Command.Composition
import Forklift.Proofs.Inventory.Failures
import Forklift.Proofs.Session.Integrity
import Forklift.Proofs.CommandLine.Batches
import Forklift.Proofs.Json.Tokens
import Forklift.Proofs.Json.Trees
import Forklift.Proofs.Inventory.Imports
import Forklift.Proofs.Inventory.Export
import Forklift.Proofs.Diagnostic.ReadBack
import Forklift.Proofs.Session.Selection
import Forklift.Proofs.Inventory.Doubling
import Forklift.Command.ValidationPass
import Forklift.Proofs.Command.Partition
import Forklift.Text.Slice
import Forklift.Proofs.Command.LeftmostFault
import Forklift.Command.ByteStream
import Forklift.Proofs.Command.Places
import Forklift.Command.Reader
import Forklift.Proofs.Command.Cursors
import Forklift.Proofs.Command.RefusedTurns
import Forklift.Command.DigitMagnitude
import Forklift.Proofs.Command.Naturals
import Forklift.Proofs.Terminal.Labels
import Forklift.Proofs.Command.Findings
import Forklift.Proofs.Session.Reports
import Forklift.Proofs.Diagnostic.Origins
import Forklift.Proofs.Inventory.Files
import Forklift.Proofs.CommandLine.Documents
import Forklift.Proofs.Terminal.Listings
