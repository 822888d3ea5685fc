import HostOverlay.Cli.Arguments
import HostOverlay.Cli.Console
import HostOverlay.Cli.Run
import HostOverlay.Decimal
import HostOverlay.Decimal.Binary
import HostOverlay.Disk.Basic
import HostOverlay.Disk.Edit
import HostOverlay.Disk.Lookup
import HostOverlay.Disk.Walk
import HostOverlay.Host.Basic
import HostOverlay.Ignore.File
import HostOverlay.Ignore.Glob
import HostOverlay.Ignore.Glob.Expression
import HostOverlay.Ignore.Glob.Matching
import HostOverlay.Ignore.Rule
import HostOverlay.Ignore.Scope
import HostOverlay.Json.Basic
import HostOverlay.Json.Decode
import HostOverlay.Json.Number
import HostOverlay.Json.Parse
import HostOverlay.Json.Render
import HostOverlay.Main
import HostOverlay.Overlay.Basic
import HostOverlay.Overlay.Capability
import HostOverlay.Overlay.Context
import HostOverlay.Overlay.Plugin
import HostOverlay.Path.Basic
import HostOverlay.Path.Normal
import HostOverlay.Proofs.Host.Query
import HostOverlay.Proofs.Host.Request
import HostOverlay.Proofs.Overlay.Host
import HostOverlay.Proofs.Overlay.Redirect
import HostOverlay.Proofs.Overlay.Run
import HostOverlay.Proofs.Path.Fold
import HostOverlay.Proofs.Path.Segments
import HostOverlay.Proofs.Workbench.Imports
import HostOverlay.Script.Definition
import HostOverlay.Script.Kind
import HostOverlay.Script.Resolution
import HostOverlay.Script.Snapshot
import HostOverlay.Script.Wire
import HostOverlay.Settings
import HostOverlay.Settings.File
import HostOverlay.Text.Alphanumeric
import HostOverlay.Text.Digit
import HostOverlay.Text.Offset
import HostOverlay.Text.Printable
import HostOverlay.Text.Quoted
import HostOverlay.Text.Ranges
import HostOverlay.Text.Style
import HostOverlay.Text.Table
import HostOverlay.Text.Width
import HostOverlay.Toml.Basic
import HostOverlay.Toml.Parse
import HostOverlay.Toml.Scalar
import HostOverlay.Toml.Text
import HostOverlay.Workbench.Basic
import HostOverlay.Workbench.Host
import HostOverlay.Workbench.Project
import HostOverlay.Workbench.Report
import HostOverlay.Workbench.Service
import HostOverlay.Proofs.Path.Canonical
import HostOverlay.Proofs.Path.Kept
import HostOverlay.Proofs.Path.Lexical
import HostOverlay.Proofs.Path.Compose
import HostOverlay.Proofs.Disk.Folding
import HostOverlay.Proofs.Script.Batch
import HostOverlay.Proofs.Disk.Tree
import HostOverlay.Proofs.Settings.Entry
import HostOverlay.Proofs.Overlay.Attach
import HostOverlay.Proofs.Workbench.Tracking
import HostOverlay.Proofs.Disk.Lookup
import HostOverlay.Proofs.Disk.Observers
import HostOverlay.Proofs.Disk.Walk
import HostOverlay.Proofs.Disk.Write
import HostOverlay.Proofs.Disk.Redaction
import HostOverlay.Proofs.Host.Reading
import HostOverlay.Proofs.Toml.Text
import HostOverlay.Proofs.Settings.File
import HostOverlay.Proofs.Workbench.Files
import HostOverlay.Proofs.Workbench.Answers
import HostOverlay.Proofs.Workbench.Program
import HostOverlay.Proofs.Workbench.Secrecy
import HostOverlay.Proofs.Workbench.Presence
import HostOverlay.Proofs.Overlay.Twice
import HostOverlay.Proofs.Overlay.Service
import HostOverlay.Proofs.Json.Token
import HostOverlay.Proofs.Json.Spelling
import HostOverlay.Proofs.Json.Range
import HostOverlay.Proofs.Json.RoundTrip
import HostOverlay.Proofs.Script.Wire
import HostOverlay.Proofs.Workbench.Diagnostics
import HostOverlay.Proofs.Cli.Output
import HostOverlay.Proofs.Text.Bytes
import HostOverlay.Proofs.Text.Offset
import HostOverlay.Proofs.Workbench.Words
import HostOverlay.Proofs.Script.Endings
import HostOverlay.Proofs.Workbench.Search
import HostOverlay.Proofs.Workbench.Target
import HostOverlay.Proofs.Cli.Effects
import HostOverlay.Proofs.Settings.Safety
import HostOverlay.Proofs.Settings.Grammar
import HostOverlay.Proofs.Disk.Course
import HostOverlay.Proofs.Disk.Kept
import HostOverlay.Proofs.Disk.Addition
import HostOverlay.Proofs.Ignore.Judging
import HostOverlay.Proofs.Ignore.Below
import HostOverlay.Proofs.Ignore.Plain
import HostOverlay.Proofs.Ignore.Loading
import HostOverlay.Proofs.Workbench.Ignoring
import HostOverlay.Proofs.Workbench.Addition
import HostOverlay.Proofs.Script.Snapshot
import HostOverlay.Proofs.Script.Classes
import HostOverlay.Proofs.Workbench.Agreement
import HostOverlay.Proofs.Text.Table
import HostOverlay.Proofs.Workbench.Report
