import ModuleBuild.Build.Debasing
import ModuleBuild.Build.Lowering
import ModuleBuild.Build.Pipeline
import ModuleBuild.Build.Publishing
import ModuleBuild.Build.Step
import ModuleBuild.Build.Wait
import ModuleBuild.BuildError
import ModuleBuild.Command.Arguments
import ModuleBuild.Command.Build
import ModuleBuild.Command.Console
import ModuleBuild.Command.Reach
import ModuleBuild.Command.Run
import ModuleBuild.Command.Scan
import ModuleBuild.Config.Basic
import ModuleBuild.Config.Error
import ModuleBuild.Diagnostic.Basic
import ModuleBuild.Diagnostic.Document
import ModuleBuild.Diagnostic.Render
import ModuleBuild.Diagnostic.Sharing
import ModuleBuild.Diagnostic.Sink
import ModuleBuild.Digest.Basic
import ModuleBuild.Digest.Document
import ModuleBuild.Digest.Hex
import ModuleBuild.Digest.Slices
import ModuleBuild.Digest.Xxh3
import ModuleBuild.Duration
import ModuleBuild.FileTree.Access
import ModuleBuild.FileTree.Basic
import ModuleBuild.FileTree.Change
import ModuleBuild.FileTree.Lemmas
import ModuleBuild.FileTree.Question
import ModuleBuild.FileTree.Without
import ModuleBuild.Fingerprint
import ModuleBuild.Json.Numeral
import ModuleBuild.Json.Reader
import ModuleBuild.Json.Token
import ModuleBuild.Json.Value
import ModuleBuild.Lowering.Batch
import ModuleBuild.Lowering.Report
import ModuleBuild.Lowering.Workers
import ModuleBuild.Main
import ModuleBuild.Manifest
import ModuleBuild.Mismatch
import ModuleBuild.Number.Binary64
import ModuleBuild.Number.Shortest
import ModuleBuild.Path
import ModuleBuild.Process
import ModuleBuild.Process.Interpreter
import ModuleBuild.Process.Launch
import ModuleBuild.Process.Machine
import ModuleBuild.Process.Program
import ModuleBuild.Process.Search
import ModuleBuild.Process.Signal
import ModuleBuild.Process.System
import ModuleBuild.Process.Task
import ModuleBuild.Process.Utility.Basic
import ModuleBuild.Process.Utility.Edit
import ModuleBuild.Process.Utility.Environment
import ModuleBuild.Process.Utility.Files
import ModuleBuild.Process.Utility.Lines
import ModuleBuild.Process.Utility.Listing
import ModuleBuild.Process.Utility.Question
import ModuleBuild.Process.Utility.Search
import ModuleBuild.Process.Utility.Words
import ModuleBuild.Profile
import ModuleBuild.Profile.Document
import ModuleBuild.Proofs.Build.Attempts
import ModuleBuild.Proofs.Build.Beside
import ModuleBuild.Proofs.Build.Calls
import ModuleBuild.Proofs.Build.Contract
import ModuleBuild.Proofs.Build.Debasing
import ModuleBuild.Proofs.Build.Failure
import ModuleBuild.Proofs.Build.Listing
import ModuleBuild.Proofs.Build.Manifests
import ModuleBuild.Proofs.Build.Notes
import ModuleBuild.Proofs.Build.ObjectPlaces
import ModuleBuild.Proofs.Build.Objects
import ModuleBuild.Proofs.Build.ResponseFile
import ModuleBuild.Proofs.Build.Rooted
import ModuleBuild.Proofs.Build.Sparing
import ModuleBuild.Proofs.Build.Tally
import ModuleBuild.Proofs.Build.Views
import ModuleBuild.Proofs.Build.Waiting
import ModuleBuild.Proofs.Build.Watching
import ModuleBuild.Proofs.Cache.Config
import ModuleBuild.Proofs.Cache.FailOpen
import ModuleBuild.Proofs.Cache.Framing
import ModuleBuild.Proofs.Cache.Grouping
import ModuleBuild.Proofs.Cache.History
import ModuleBuild.Proofs.Cache.Repeat
import ModuleBuild.Proofs.Cache.Snapshot
import ModuleBuild.Proofs.Cache.Tool
import ModuleBuild.Proofs.Cache.Transparency
import ModuleBuild.Proofs.Command.Report
import ModuleBuild.Proofs.Command.Reporting
import ModuleBuild.Proofs.Config.Given
import ModuleBuild.Proofs.Config.Loading
import ModuleBuild.Proofs.Diagnostic.Accounting
import ModuleBuild.Proofs.Diagnostic.Document
import ModuleBuild.Proofs.Diagnostic.Rendering
import ModuleBuild.Proofs.Digest.RoundTrip
import ModuleBuild.Proofs.Json.Grammar
import ModuleBuild.Proofs.Json.Reading
import ModuleBuild.Proofs.Json.Scanning
import ModuleBuild.Proofs.Json.Writing
import ModuleBuild.Proofs.Lowering.Concurrency
import ModuleBuild.Proofs.Lowering.InTurn
import ModuleBuild.Proofs.Lowering.Interleaving
import ModuleBuild.Proofs.Lowering.Order
import ModuleBuild.Proofs.Path.Absolute
import ModuleBuild.Proofs.Path.Components
import ModuleBuild.Proofs.Path.Spelled
import ModuleBuild.Proofs.Text.Lines
import ModuleBuild.Proofs.Toml.Grammar
import ModuleBuild.Proofs.Toml.Layout
import ModuleBuild.Proofs.Toml.Reading
import ModuleBuild.Proofs.Toml.Scanning
import ModuleBuild.Proofs.Toml.Section
import ModuleBuild.Proofs.Toml.Tables
import ModuleBuild.Proofs.Toml.Writing
import ModuleBuild.Request
import ModuleBuild.Shell.Call
import ModuleBuild.Shell.Child
import ModuleBuild.Shell.Command
import ModuleBuild.Shell.Expansion
import ModuleBuild.Shell.Field
import ModuleBuild.Shell.Launch
import ModuleBuild.Shell.Lexeme
import ModuleBuild.Shell.Pattern
import ModuleBuild.Shell.Redirection
import ModuleBuild.Shell.Run
import ModuleBuild.Shell.Script
import ModuleBuild.Shell.Source
import ModuleBuild.Shell.Start
import ModuleBuild.Shell.State
import ModuleBuild.Shell.Sum
import ModuleBuild.Shell.Tool
import ModuleBuild.Shell.Tool.Aliases
import ModuleBuild.Shell.Tool.Basic
import ModuleBuild.Shell.Tool.Control
import ModuleBuild.Shell.Tool.Describe
import ModuleBuild.Shell.Tool.Input
import ModuleBuild.Shell.Tool.Jobs
import ModuleBuild.Shell.Tool.Place
import ModuleBuild.Shell.Tool.Print
import ModuleBuild.Shell.Tool.Rights
import ModuleBuild.Shell.Tool.Signals
import ModuleBuild.Shell.Tool.Test
import ModuleBuild.Shell.Tool.Variables
import ModuleBuild.Text.Blank
import ModuleBuild.Text.Conversion
import ModuleBuild.Text.Format
import ModuleBuild.Text.Octets
import ModuleBuild.Text.Quoted
import ModuleBuild.Text.Regex
import ModuleBuild.Text.Slice
import ModuleBuild.Text.Unprintable
import ModuleBuild.Text.Utf8
import ModuleBuild.Toml.Document
import ModuleBuild.Toml.Lexeme
import ModuleBuild.Toml.Scalar
import ModuleBuild.Toml.Section
import ModuleBuild.Toml.Value
