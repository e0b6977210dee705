import VendorCli.Addresses
import VendorCli.Bgp
import VendorCli.Console
import VendorCli.Device
import VendorCli.Dialect
import VendorCli.Diff.Align
import VendorCli.Diff.Compact
import VendorCli.Diff.Middle
import VendorCli.Diff.Report
import VendorCli.Diff.Script
import VendorCli.Document.Basic
import VendorCli.Document.Decode
import VendorCli.Document.Format
import VendorCli.Document.JsonText
import VendorCli.Document.Scalar
import VendorCli.Environment
import VendorCli.Error
import VendorCli.Execution
import VendorCli.Interfaces.Reading
import VendorCli.Interfaces.Schema
import VendorCli.Interfaces.Writing
import VendorCli.Invocation.Basic
import VendorCli.Invocation.Reader
import VendorCli.Ipv4.Address
import VendorCli.Ipv4.Mask
import VendorCli.Json.Basic
import VendorCli.Json.Printer
import VendorCli.Main
import VendorCli.Number.Decimal
import VendorCli.Number.Real
import VendorCli.Output.Block
import VendorCli.Output.Extractor
import VendorCli.Output.Lines
import VendorCli.Output.Rule
import VendorCli.Output.Spec
import VendorCli.Path.Basic
import VendorCli.Path.Reader
import VendorCli.Pattern.Basic
import VendorCli.Pattern.CharClass
import VendorCli.Pattern.ClassReader
import VendorCli.Pattern.Match
import VendorCli.Pattern.Property
import VendorCli.Pattern.Reader
import VendorCli.Platform
import VendorCli.Proofs.Addresses.Listing
import VendorCli.Proofs.Addresses.Writing
import VendorCli.Proofs.Bgp.Reading
import VendorCli.Proofs.Device.Cache
import VendorCli.Proofs.Device.Offenders
import VendorCli.Proofs.Device.Rejections
import VendorCli.Proofs.Diff.Readings
import VendorCli.Proofs.Diff.Reports
import VendorCli.Proofs.Interfaces.Blocks
import VendorCli.Proofs.Interfaces.Changes
import VendorCli.Proofs.Interfaces.Differences
import VendorCli.Proofs.Interfaces.Execution
import VendorCli.Proofs.Interfaces.Reading
import VendorCli.Proofs.Interfaces.Records
import VendorCli.Proofs.Interfaces.Sections
import VendorCli.Proofs.Interfaces.Settings
import VendorCli.Proofs.Interfaces.Statements
import VendorCli.Proofs.Interfaces.Updates
import VendorCli.Proofs.Ipv4.Masks
import VendorCli.Proofs.Ipv4.Notation
import VendorCli.Proofs.Number.Digits
import VendorCli.Proofs.Output.Blocks
import VendorCli.Proofs.Output.FieldOrder
import VendorCli.Proofs.Output.Fields
import VendorCli.Proofs.Output.Records
import VendorCli.Proofs.Output.Skipping
import VendorCli.Proofs.Output.Values
import VendorCli.Proofs.Output.WholeLines
import VendorCli.Proofs.Path.Grammar
import VendorCli.Proofs.Path.Keys
import VendorCli.Proofs.Path.RoundTrip
import VendorCli.Proofs.Pattern.Anchored
import VendorCli.Proofs.Pattern.Closing
import VendorCli.Proofs.Pattern.Completeness
import VendorCli.Proofs.Pattern.Enclosing
import VendorCli.Proofs.Pattern.Following
import VendorCli.Proofs.Pattern.Leads
import VendorCli.Proofs.Pattern.Lines
import VendorCli.Proofs.Pattern.Moves
import VendorCli.Proofs.Pattern.Remainders
import VendorCli.Proofs.Pattern.Stages
import VendorCli.Proofs.Record.Decoding
import VendorCli.Proofs.Registry.ListedPaths
import VendorCli.Proofs.Registry.Lookup
import VendorCli.Proofs.Registry.Nodes
import VendorCli.Proofs.Registry.Outcomes
import VendorCli.Proofs.Registry.Refusals
import VendorCli.Proofs.Registry.Rehearsal
import VendorCli.Proofs.Registry.Transactions
import VendorCli.Proofs.Registry.WriteBack
import VendorCli.Proofs.Section.Chains
import VendorCli.Proofs.Section.Commands
import VendorCli.Proofs.Section.Flattening
import VendorCli.Proofs.Section.Nesting
import VendorCli.Proofs.Section.OnePass
import VendorCli.Proofs.Section.Outline
import VendorCli.Proofs.Section.Parents
import VendorCli.Proofs.Session.Answers
import VendorCli.Proofs.Session.Normalization
import VendorCli.Proofs.Session.Reads
import VendorCli.Proofs.Settings.Files
import VendorCli.Proofs.Settings.Overrides
import VendorCli.Proofs.Template.Commands
import VendorCli.Proofs.Template.Printing
import VendorCli.Proofs.Text.Categories
import VendorCli.Proofs.Text.Lines
import VendorCli.Proofs.Text.Quotation
import VendorCli.Proofs.Text.Words
import VendorCli.Proofs.Transcript.Cleaning
import VendorCli.Record.BgpGlobal
import VendorCli.Record.HostAddress
import VendorCli.Record.Interface
import VendorCli.Record.InterfaceKind
import VendorCli.Registry.Basic
import VendorCli.Registry.Exchange
import VendorCli.Registry.Handler
import VendorCli.Section.Basic
import VendorCli.Section.Reader
import VendorCli.Section.Search
import VendorCli.Session.Basic
import VendorCli.Session.Program
import VendorCli.Session.Replay
import VendorCli.Session.Shell
import VendorCli.Session.Words
import VendorCli.Settings.Basic
import VendorCli.Settings.Sources
import VendorCli.Statements
import VendorCli.Template.Arguments
import VendorCli.Template.Condition
import VendorCli.Template.Engine
import VendorCli.Template.Filter
import VendorCli.Template.Filter.Basic
import VendorCli.Template.Filter.Collection
import VendorCli.Template.Filter.Device
import VendorCli.Template.Filter.Number
import VendorCli.Template.Filter.Text
import VendorCli.Template.Function
import VendorCli.Template.Operation
import VendorCli.Template.Reader
import VendorCli.Template.Render
import VendorCli.Template.Syntax
import VendorCli.Template.Token
import VendorCli.Template.Value
import VendorCli.Text.Basic
import VendorCli.Text.Blank
import VendorCli.Text.Case
import VendorCli.Text.Category
import VendorCli.Text.Escape
import VendorCli.Text.Letter
import VendorCli.Text.Script
import VendorCli.Text.Table
import VendorCli.Toml.Reader
import VendorCli.Toml.Scalar
import VendorCli.Transcript
import VendorCli.Units
import VendorCli.Yaml.Cursor
import VendorCli.Yaml.Printer
import VendorCli.Yaml.Properties
import VendorCli.Yaml.Reader
import VendorCli.Yaml.Scalar
