import ConfigBrowser.Decimal.Shortest
import ConfigBrowser.Entity
import ConfigBrowser.Error
import ConfigBrowser.Files.Path
import ConfigBrowser.Files.Tree
import ConfigBrowser.History.Document
import ConfigBrowser.History.Entry
import ConfigBrowser.History.Lists
import ConfigBrowser.History.Store
import ConfigBrowser.History.Trace
import ConfigBrowser.Host.Basic
import ConfigBrowser.Host.Command
import ConfigBrowser.Host.Script
import ConfigBrowser.Host.Trace
import ConfigBrowser.Json.Basic
import ConfigBrowser.Json.Number
import ConfigBrowser.Json.Reader
import ConfigBrowser.Json.Skip
import ConfigBrowser.Json.Writer
import ConfigBrowser.Log.Filter
import ConfigBrowser.Log.Folder
import ConfigBrowser.Log.Note
import ConfigBrowser.Log.Rotation
import ConfigBrowser.Main
import ConfigBrowser.Proofs.Host.Dialogs
import ConfigBrowser.Proofs.Host.ListMatch
import ConfigBrowser.Proofs.Host.Operations
import ConfigBrowser.Proofs.Route.Matching
import ConfigBrowser.Proofs.Route.PageRules
import ConfigBrowser.Proofs.Route.Escaping
import ConfigBrowser.Proofs.Route.Pieces
import ConfigBrowser.Proofs.Route.Resolution
import ConfigBrowser.Proofs.Route.RoundTrip
import ConfigBrowser.Proofs.View.Course
import ConfigBrowser.Proofs.View.Deletions
import ConfigBrowser.Proofs.View.Destinations
import ConfigBrowser.Proofs.View.Dialogs
import ConfigBrowser.Proofs.View.Failures
import ConfigBrowser.Proofs.View.ListMatch
import ConfigBrowser.Proofs.View.Outcomes
import ConfigBrowser.Proofs.View.Tickets
import ConfigBrowser.Proofs.View.Waiting
import ConfigBrowser.Replay.Arguments
import ConfigBrowser.Replay.Journal
import ConfigBrowser.Replay.Run
import ConfigBrowser.Route.Args
import ConfigBrowser.Route.Escape
import ConfigBrowser.Route.Handler
import ConfigBrowser.Route.Pattern
import ConfigBrowser.Route.Table
import ConfigBrowser.Screen.Dialog
import ConfigBrowser.Screen.Template
import ConfigBrowser.Screen.Toolbar
import ConfigBrowser.Settings
import ConfigBrowser.SortedMap
import ConfigBrowser.Store.Describe
import ConfigBrowser.Store.Memory
import ConfigBrowser.Store.Message
import ConfigBrowser.Store.NameSearch
import ConfigBrowser.Store.RootElement
import ConfigBrowser.Text.Alphanumeric
import ConfigBrowser.Text.Blank
import ConfigBrowser.Text.CharSet
import ConfigBrowser.Text.Digits
import ConfigBrowser.Text.Printable
import ConfigBrowser.Text.Quoted
import ConfigBrowser.Text.Regex.Basic
import ConfigBrowser.Text.Regex.Bracket
import ConfigBrowser.Text.Regex.Escape
import ConfigBrowser.Text.Regex.Flags
import ConfigBrowser.Text.Regex.Nested
import ConfigBrowser.Text.Regex.Program
import ConfigBrowser.Text.Regex.Reader
import ConfigBrowser.Text.Slice
import ConfigBrowser.Text.Split
import ConfigBrowser.Text.Uppercase
import ConfigBrowser.Text.Utf8
import ConfigBrowser.Toml.Document
import ConfigBrowser.Toml.Text
import ConfigBrowser.View.Action
import ConfigBrowser.View.Describe
import ConfigBrowser.View.Detail
import ConfigBrowser.View.Dialogs
import ConfigBrowser.View.Navigation
import ConfigBrowser.View.Reconciler
import ConfigBrowser.View.Search
import ConfigBrowser.View.State
import ConfigBrowser.View.Step
import ConfigBrowser.View.Trace
import ConfigBrowser.Wire.Action
import ConfigBrowser.Wire.Entity
import ConfigBrowser.Wire.Envelope
import ConfigBrowser.Wire.Event
import ConfigBrowser.Wire.Read
import ConfigBrowser.Wire.Route
import ConfigBrowser.Wire.Screen
import ConfigBrowser.Wire.Store
import ConfigBrowser.Proofs.View.Errors
import ConfigBrowser.Proofs.History.Changes
import ConfigBrowser.Proofs.View.Alike
import ConfigBrowser.Proofs.View.ReplyOrder
import ConfigBrowser.Proofs.Host.Draining
import ConfigBrowser.Proofs.Route.Sizes
import ConfigBrowser.Proofs.View.Errands
import ConfigBrowser.Proofs.Host.Effects
import ConfigBrowser.Proofs.Host.Lagging
import ConfigBrowser.Proofs.Host.CatchingUp
import ConfigBrowser.Proofs.Host.Deferred
import ConfigBrowser.Proofs.View.Pane
import ConfigBrowser.Proofs.View.Favorites
import ConfigBrowser.Proofs.View.Editing
import ConfigBrowser.Proofs.View.Expectations
import ConfigBrowser.Proofs.Host.Replies
import ConfigBrowser.Proofs.View.Notices
import ConfigBrowser.Proofs.Host.Mirroring
import ConfigBrowser.Proofs.Route.RuleOrder
import ConfigBrowser.Proofs.Route.Canonical
import ConfigBrowser.Proofs.View.Redirects
import ConfigBrowser.Proofs.View.Mentions
import ConfigBrowser.Proofs.View.Decisions
import ConfigBrowser.Proofs.View.ListWork
import ConfigBrowser.Proofs.View.Filtering
import ConfigBrowser.Proofs.Host.Prompt
import ConfigBrowser.Proofs.Store.Numbering
import ConfigBrowser.Proofs.Host.Creating
import ConfigBrowser.Proofs.Host.Deleting
import ConfigBrowser.Proofs.View.Signals
import ConfigBrowser.Proofs.View.Selection
import ConfigBrowser.Proofs.History.Attempts
import ConfigBrowser.Proofs.History.Exposed
import ConfigBrowser.Proofs.View.Indicator
import ConfigBrowser.Proofs.Json.Tokens
import ConfigBrowser.Proofs.Json.RoundTrip
import ConfigBrowser.Proofs.History.Document
import ConfigBrowser.Proofs.History.Saving
import ConfigBrowser.Proofs.History.Recency
import ConfigBrowser.Proofs.Store.Freshness
import ConfigBrowser.Proofs.Route.Grammar
import ConfigBrowser.Proofs.Json.Depth
import ConfigBrowser.Proofs.Wire.Records
import ConfigBrowser.Proofs.Wire.Messages
import ConfigBrowser.Proofs.Wire.Actions
import ConfigBrowser.Proofs.Store.Searching
import ConfigBrowser.Proofs.Store.Prolog
import ConfigBrowser.Proofs.Host.Replaying
import ConfigBrowser.Proofs.Log.Rotating
