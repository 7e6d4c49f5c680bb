import ToolHost.Board
import ToolHost.Cli
import ToolHost.CommandLine.Form
import ToolHost.CommandLine.Reading
import ToolHost.Commands
import ToolHost.Config.Cache
import ToolHost.Config.Layer
import ToolHost.Config.Place
import ToolHost.Config.Settings
import ToolHost.Config.Source
import ToolHost.Decimal.Binary
import ToolHost.Decimal.Fixed
import ToolHost.Decimal.Reader
import ToolHost.Decimal.Shortest
import ToolHost.Decimal.Whole
import ToolHost.Deflate.Bits
import ToolHost.Deflate.Code
import ToolHost.Deflate.Inflate
import ToolHost.Deflate.Stream
import ToolHost.Failure
import ToolHost.Happening
import ToolHost.House
import ToolHost.Http.Coding
import ToolHost.Http.Domain
import ToolHost.Http.DomainTable
import ToolHost.Http.Escape
import ToolHost.Http.Exchange
import ToolHost.Http.Host
import ToolHost.Http.Reference
import ToolHost.Http.Url
import ToolHost.Install
import ToolHost.Launch
import ToolHost.Location
import ToolHost.Log.Level
import ToolHost.Log.Record
import ToolHost.Log.Setup
import ToolHost.Machine.Errno
import ToolHost.Machine.FileTree
import ToolHost.Machine.Host
import ToolHost.Machine.Path
import ToolHost.Main
import ToolHost.OneShot
import ToolHost.Product
import ToolHost.Prompt
import ToolHost.Proofs.AfterAll
import ToolHost.Proofs.Asking
import ToolHost.Proofs.BadFiles
import ToolHost.Proofs.Board.Moves
import ToolHost.Proofs.Board.Rest
import ToolHost.Proofs.Board.Steps
import ToolHost.Proofs.Board.Watches
import ToolHost.Proofs.CacheCoherence
import ToolHost.Proofs.CallByCall
import ToolHost.Proofs.CallOrder
import ToolHost.Proofs.CommandLine.Ambiguity
import ToolHost.Proofs.Conducting
import ToolHost.Proofs.Config.Absence
import ToolHost.Proofs.Config.Depths
import ToolHost.Proofs.Config.Keys
import ToolHost.Proofs.Config.Layers
import ToolHost.Proofs.Config.Nulls
import ToolHost.Proofs.Config.Settled
import ToolHost.Proofs.ConfigCascade
import ToolHost.Proofs.Conversation
import ToolHost.Proofs.DisplayOrder
import ToolHost.Proofs.EventLoop
import ToolHost.Proofs.FailedInstall
import ToolHost.Proofs.FailedLaunch
import ToolHost.Proofs.FailedStart
import ToolHost.Proofs.FetchedOnce
import ToolHost.Proofs.GracefulStop
import ToolHost.Proofs.Handover
import ToolHost.Proofs.HeldBack
import ToolHost.Proofs.HiddenCommands
import ToolHost.Proofs.Install.Course
import ToolHost.Proofs.Install.Places
import ToolHost.Proofs.Install.Reading
import ToolHost.Proofs.Install.Storing
import ToolHost.Proofs.Installation
import ToolHost.Proofs.Instants
import ToolHost.Proofs.InteractiveRun
import ToolHost.Proofs.Intervals
import ToolHost.Proofs.LatchUse
import ToolHost.Proofs.LineDelivery
import ToolHost.Proofs.MergingTwice
import ToolHost.Proofs.Noninterference
import ToolHost.Proofs.NullSparing
import ToolHost.Proofs.OneProcess
import ToolHost.Proofs.OneShot.Accounts
import ToolHost.Proofs.OneShot.Course
import ToolHost.Proofs.OneShot.Errand
import ToolHost.Proofs.OneShot.Shop
import ToolHost.Proofs.OneShot.Shots
import ToolHost.Proofs.OneShotAccount
import ToolHost.Proofs.OutputRelay
import ToolHost.Proofs.Passing
import ToolHost.Proofs.PlainOutput
import ToolHost.Proofs.PortionedOutput
import ToolHost.Proofs.Preparing
import ToolHost.Proofs.Regrouping
import ToolHost.Proofs.Routines
import ToolHost.Proofs.Run
import ToolHost.Proofs.Scripts
import ToolHost.Proofs.Separation
import ToolHost.Proofs.Session.Aftermath
import ToolHost.Proofs.Session.Births
import ToolHost.Proofs.Session.Closing
import ToolHost.Proofs.Session.Count
import ToolHost.Proofs.Session.Course
import ToolHost.Proofs.Session.Delivery
import ToolHost.Proofs.Session.Drift
import ToolHost.Proofs.Session.Grace
import ToolHost.Proofs.Session.Joining
import ToolHost.Proofs.Session.LineEnds
import ToolHost.Proofs.Session.Lines
import ToolHost.Proofs.Session.Lookup
import ToolHost.Proofs.Session.Mild
import ToolHost.Proofs.Session.Move
import ToolHost.Proofs.Session.Order
import ToolHost.Proofs.Session.Past
import ToolHost.Proofs.Session.Patience
import ToolHost.Proofs.Session.Places
import ToolHost.Proofs.Session.Processes
import ToolHost.Proofs.Session.Queue
import ToolHost.Proofs.Session.Quiet
import ToolHost.Proofs.Session.Reasons
import ToolHost.Proofs.Session.RelayEnd
import ToolHost.Proofs.Session.Relaying
import ToolHost.Proofs.Session.Replies
import ToolHost.Proofs.Session.Sections
import ToolHost.Proofs.Session.Solo
import ToolHost.Proofs.Session.Strokes
import ToolHost.Proofs.Session.Trailing
import ToolHost.Proofs.Shell.Quoting
import ToolHost.Proofs.Shutdown
import ToolHost.Proofs.SlashCommands
import ToolHost.Proofs.Terminal.Lexemes
import ToolHost.Proofs.Terminal.Pieces
import ToolHost.Proofs.Terminal.Plain
import ToolHost.Proofs.Terminal.Portions
import ToolHost.Proofs.Terminal.Protection
import ToolHost.Proofs.Terminal.Sequences
import ToolHost.Proofs.ToolWords
import ToolHost.Proofs.TypedLines
import ToolHost.Proofs.TypedSettings
import ToolHost.Proofs.Unread
import ToolHost.Proofs.Verbosity
import ToolHost.Proofs.Watching
import ToolHost.Proofs.Yaml.Keys
import ToolHost.Registry
import ToolHost.Rehearsal.Agenda
import ToolHost.Rehearsal.Script
import ToolHost.Rehearsal.Stage
import ToolHost.Rehearsal.Viewing
import ToolHost.Routine
import ToolHost.Seconds
import ToolHost.Session.Child
import ToolHost.Session.Latch
import ToolHost.Session.Room
import ToolHost.Session.Turn
import ToolHost.Shell.Quote
import ToolHost.Shell.Words
import ToolHost.Stamp
import ToolHost.Terminal.ColorNames
import ToolHost.Terminal.Constant
import ToolHost.Terminal.Escape
import ToolHost.Terminal.Filter
import ToolHost.Terminal.Markup
import ToolHost.Terminal.NamedStyle
import ToolHost.Terminal.Page
import ToolHost.Terminal.Rendition
import ToolHost.Terminal.Screen
import ToolHost.Terminal.Style
import ToolHost.Terminal.Table
import ToolHost.Terminal.Wrap
import ToolHost.Text.Base64
import ToolHost.Text.Blank
import ToolHost.Text.Capital
import ToolHost.Text.Digit
import ToolHost.Text.Emoji
import ToolHost.Text.EmojiTable
import ToolHost.Text.Half
import ToolHost.Text.LetterTable
import ToolHost.Text.Lines
import ToolHost.Text.Printable
import ToolHost.Text.Punycode
import ToolHost.Text.Quoted
import ToolHost.Text.Ranges
import ToolHost.Text.Small
import ToolHost.Text.Utf8
import ToolHost.Text.Width
import ToolHost.Value
import ToolHost.Yaml.Cursor
import ToolHost.Yaml.Document
import ToolHost.Yaml.Literal
import ToolHost.Yaml.Node
import ToolHost.Yaml.Resolution
import ToolHost.Yaml.Token
