import MouseConfig.Action
import MouseConfig.Command.Listing
import MouseConfig.Command.Perform
import MouseConfig.Command.Requirement
import MouseConfig.Command.Resolve
import MouseConfig.Command.Run
import MouseConfig.Command.Standard
import MouseConfig.Command.Tree
import MouseConfig.Command.Usage
import MouseConfig.Command.Walk
import MouseConfig.Command.Words
import MouseConfig.Config
import MouseConfig.Device.Basic
import MouseConfig.Device.Capability
import MouseConfig.Device.Description
import MouseConfig.Device.Outline
import MouseConfig.Device.Report
import MouseConfig.Device.Sheet
import MouseConfig.Device.VolumeKeys
import MouseConfig.Error
import MouseConfig.Files.Basic
import MouseConfig.Files.Store
import MouseConfig.Key
import MouseConfig.Log.Event
import MouseConfig.Log.Filter
import MouseConfig.Log.Line
import MouseConfig.Log.Pattern
import MouseConfig.Main
import MouseConfig.Options
import MouseConfig.Path
import MouseConfig.Program
import MouseConfig.Proofs.Command.Arrival
import MouseConfig.Proofs.Command.Checks
import MouseConfig.Proofs.Command.Effect
import MouseConfig.Proofs.Command.Failure
import MouseConfig.Proofs.Command.Follows
import MouseConfig.Proofs.Command.Grammar
import MouseConfig.Proofs.Command.Grant
import MouseConfig.Proofs.Command.Guards
import MouseConfig.Proofs.Command.Invariant
import MouseConfig.Proofs.Command.Inversion
import MouseConfig.Proofs.Command.Level
import MouseConfig.Proofs.Command.Lines
import MouseConfig.Proofs.Command.Needs
import MouseConfig.Proofs.Command.Oblivious
import MouseConfig.Proofs.Command.Opening
import MouseConfig.Proofs.Command.Outcome
import MouseConfig.Proofs.Command.Perform
import MouseConfig.Proofs.Command.Plan
import MouseConfig.Proofs.Command.Reading
import MouseConfig.Proofs.Command.Recall
import MouseConfig.Proofs.Command.Runs
import MouseConfig.Proofs.Command.Search
import MouseConfig.Proofs.Command.Sound
import MouseConfig.Proofs.Command.Success
import MouseConfig.Proofs.Command.Sufficient
import MouseConfig.Proofs.Command.Writing
import MouseConfig.Proofs.Device.Guarded
import MouseConfig.Proofs.Device.Record
import MouseConfig.Proofs.Device.RoundTrip
import MouseConfig.Proofs.Device.Update
import MouseConfig.Proofs.Device.WellFormed
import MouseConfig.Proofs.Files.Directories
import MouseConfig.Proofs.Files.Replace
import MouseConfig.Proofs.Files.Requests
import MouseConfig.Proofs.Files.Store
import MouseConfig.Proofs.Program.Failure
import MouseConfig.Proofs.Program.Frame
import MouseConfig.Proofs.Service.Shelf
import MouseConfig.Proofs.Session.Balance
import MouseConfig.Proofs.Session.Context
import MouseConfig.Proofs.Session.Fits
import MouseConfig.Proofs.Session.Leads
import MouseConfig.Proofs.Session.Operation
import MouseConfig.Proofs.Session.Run
import MouseConfig.Proofs.Toml.Adding
import MouseConfig.Proofs.Toml.Assembly
import MouseConfig.Proofs.Toml.Layout
import MouseConfig.Proofs.Toml.Quoted
import MouseConfig.Proofs.Toml.Range
import MouseConfig.Proofs.Toml.Setting
import MouseConfig.Service.Basic
import MouseConfig.Service.Shelf
import MouseConfig.Session
import MouseConfig.Text.Bytes
import MouseConfig.Text.CharRanges
import MouseConfig.Text.Hexadecimal
import MouseConfig.Text.Letter
import MouseConfig.Text.Lines
import MouseConfig.Text.Numeral
import MouseConfig.Text.Outline
import MouseConfig.Text.Unprintable
import MouseConfig.Toml.Assembly
import MouseConfig.Toml.Moment
import MouseConfig.Toml.Number
import MouseConfig.Toml.Quote
import MouseConfig.Toml.Quoted
import MouseConfig.Toml.Reader
import MouseConfig.Toml.Record
import MouseConfig.Toml.Scan
import MouseConfig.Toml.Sheet
import MouseConfig.Toml.Value
import MouseConfig.Proofs.Command.Agreement
import MouseConfig.Proofs.Command.Course
import MouseConfig.Proofs.Command.Nesting
import MouseConfig.Proofs.Command.Chain
import MouseConfig.Proofs.Command.Recording
import MouseConfig.Proofs.Session.Selections
import MouseConfig.Proofs.Device.Spots
import MouseConfig.Proofs.Command.Explicit
import MouseConfig.Proofs.Service.Storage
import MouseConfig.Proofs.Files.Commits
import MouseConfig.Proofs.Command.Independence
import MouseConfig.Proofs.Command.Account
import MouseConfig.Proofs.Command.Remapping
import MouseConfig.Proofs.Session.Disclosure
import MouseConfig.Proofs.Command.Verbosity
import MouseConfig.Proofs.Command.Switching
import MouseConfig.Proofs.Device.Unmarked
import MouseConfig.Proofs.Service.MarkBlind
import MouseConfig.Proofs.Files.MarkBlind
import MouseConfig.Proofs.Command.Indifferent
import MouseConfig.Proofs.Command.Pinned
import MouseConfig.Proofs.Command.Validation
import MouseConfig.Proofs.Session.Resolving
import MouseConfig.Proofs.Command.Choices
import MouseConfig.Proofs.Command.ButtonFaults
import MouseConfig.Proofs.Command.DpiFaults
import MouseConfig.Proofs.Text.Numeral
import MouseConfig.Proofs.Command.Listing
import MouseConfig.Proofs.Action.Grammar
import MouseConfig.Proofs.Action.Text
import MouseConfig.Proofs.Device.VolumeKeys
import MouseConfig.Proofs.Service.Restored
import MouseConfig.Proofs.Command.VolumeKeys
import MouseConfig.Proofs.Command.Report
import MouseConfig.Proofs.Program.Options
import MouseConfig.Proofs.Files.Saving
import MouseConfig.Proofs.Text.Bytes
import MouseConfig.Proofs.Files.Scan
import MouseConfig.Proofs.Program.Listing
import MouseConfig.Proofs.Text.Decimal
import MouseConfig.Proofs.Command.Indices
import MouseConfig.Proofs.Text.Outline
import MouseConfig.Proofs.Device.Outline
