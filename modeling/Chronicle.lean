import Chronicle.Arguments
import Chronicle.Binary64
import Chronicle.Clock
import Chronicle.Config
import Chronicle.Config.Fields
import Chronicle.Config.Reader
import Chronicle.Correlator
import Chronicle.Fork
import Chronicle.Headless
import Chronicle.Hero
import Chronicle.Input
import Chronicle.Json.Basic
import Chronicle.Json.Printer
import Chronicle.Json.Reader
import Chronicle.Limits
import Chronicle.Mailbox
import Chronicle.Message
import Chronicle.Message.Json
import Chronicle.Notification
import Chronicle.Notification.Decode
import Chronicle.Notification.Fields
import Chronicle.Process
import Chronicle.Proofs.Store.View
import Chronicle.Replay
import Chronicle.Report
import Chronicle.Screen.Draw
import Chronicle.Screen.Geometry
import Chronicle.Screen.Grid
import Chronicle.Screen.Label
import Chronicle.Search
import Chronicle.Session.Basic
import Chronicle.Session.Eviction
import Chronicle.Session.Forking
import Chronicle.Session.Handling
import Chronicle.Session.Ingestion
import Chronicle.Session.Searching
import Chronicle.Session.Streaming
import Chronicle.Session.Submission
import Chronicle.Shell.Basic
import Chronicle.Shell.Format
import Chronicle.Shell.Reader
import Chronicle.Shell.Run
import Chronicle.Shell.Token
import Chronicle.Shell.Utility
import Chronicle.Snapshot
import Chronicle.Stream
import Chronicle.Text.Blank
import Chronicle.Text.Case
import Chronicle.Text.Case.Table
import Chronicle.Text.Cluster
import Chronicle.Text.Cluster.Table
import Chronicle.Text.Lines
import Chronicle.Text.Ranges
import Chronicle.Text.Similarity
import Chronicle.Text.Utf8
import Chronicle.Text.Width
import Chronicle.Text.Width.Table
import Chronicle.Theme
import Chronicle.Theme.Reader
import Chronicle.Ticker
import Chronicle.Timeline.Entry
import Chronicle.Timeline.Id
import Chronicle.Timeline.Pipeline
import Chronicle.Timeline.Store
import Chronicle.Toml.Basic
import Chronicle.Toml.Lexeme
import Chronicle.Toml.Moment
import Chronicle.Toml.Number
import Chronicle.Toml.Quoted
import Chronicle.Toml.Reader
import Chronicle.Toml.Tables
import Chronicle.Viewport
import Chronicle.Main
import Chronicle.Proofs.Store.Sound
import Chronicle.Proofs.Store.Position
import Chronicle.Proofs.Store.Latest
import Chronicle.Proofs.Store.Eviction
import Chronicle.Proofs.Store.Flags
import Chronicle.Proofs.Store.Ids
import Chronicle.Proofs.Store.Generations
import Chronicle.Proofs.Store.Minted
import Chronicle.Proofs.Store.Recall
import Chronicle.Proofs.Store.Leases
import Chronicle.Proofs.Store.Relabelled
import Chronicle.Proofs.Store.Ledger
import Chronicle.Proofs.Store.Tandem
import Chronicle.Proofs.Store.Refinement
import Chronicle.Proofs.Timeline.Edits
import Chronicle.Proofs.Correlator
import Chronicle.Proofs.Viewport
import Chronicle.Proofs.Hero
import Chronicle.Proofs.Session.Eviction
import Chronicle.Proofs.Session.Moves
import Chronicle.Proofs.Session.Refusal
import Chronicle.Proofs.Session.Partition
import Chronicle.Proofs.Session.Window
import Chronicle.Proofs.Timeline.Lifecycle
import Chronicle.Proofs.Timeline.Log
import Chronicle.Proofs.Timeline.Keys
import Chronicle.Proofs.Correlator.Changes
import Chronicle.Proofs.Correlator.Tools
import Chronicle.Proofs.Session.Intake
import Chronicle.Proofs.Session.Changes
import Chronicle.Proofs.Session.Trimming
import Chronicle.Proofs.Session.HistoryCap
import Chronicle.Proofs.Session.Keys
import Chronicle.Proofs.Session.Streams
import Chronicle.Proofs.Session.Output
import Chronicle.Proofs.Session.Coherence
import Chronicle.Proofs.Session.History
import Chronicle.Proofs.Session.Rows
import Chronicle.Proofs.Session.Acknowledgement
import Chronicle.Proofs.Text
import Chronicle.Proofs.Screen.Content
import Chronicle.Proofs.Session.Submission
import Chronicle.Proofs.Session.Redraw
import Chronicle.Proofs.Session.Ticking
import Chronicle.Proofs.Search
import Chronicle.Proofs.Session.Searching
import Chronicle.Proofs.Session.DirectEviction
import Chronicle.Proofs.Correlator.Relabelled
import Chronicle.Proofs.Correlator.Unflagged
import Chronicle.Proofs.Session.Erasure
import Chronicle.Proofs.Session.Minting
import Chronicle.Proofs.Checked.Timeline
import Chronicle.Proofs.Checked.Session
import Chronicle.Proofs.Session.Relabelled
import Chronicle.Proofs.Session.Newcomers
import Chronicle.Proofs.Session.MintedApart
import Chronicle.Proofs.Headless.Schedule
import Chronicle.Proofs.Headless.Delivery
import Chronicle.Proofs.Session.Cancelling
import Chronicle.Proofs.Session.Hosting
import Chronicle.Proofs.Text.Utf8
import Chronicle.Proofs.Headless.Job
import Chronicle.Proofs.Headless.Pumps
import Chronicle.Proofs.Headless.Parties
import Chronicle.Proofs.Headless.Hearing
import Chronicle.Proofs.Headless.Undisturbed
import Chronicle.Proofs.Session.Discarding
import Chronicle.Proofs.Session.Standing
import Chronicle.Proofs.Session.Desk
import Chronicle.Proofs.Timeline.Seen
import Chronicle.Proofs.Session.Submitting
import Chronicle.Proofs.Correlator.Thoughts
import Chronicle.Proofs.Session.Bursts
import Chronicle.Proofs.Session.Stepping
import Chronicle.Proofs.Session.Walking
import Chronicle.Proofs.Session.Redelivery
import Chronicle.Proofs.Session.Stopping
import Chronicle.Proofs.Ticker
import Chronicle.Proofs.Text.Lines
import Chronicle.Proofs.Replay
import Chronicle.Proofs.Session.Height
import Chronicle.Proofs.Screen.Lines
import Chronicle.Proofs.Session.Clicking
import Chronicle.Proofs.Json.Reader
import Chronicle.Proofs.Json.Printer
import Chronicle.Proofs.Notification.Record
import Chronicle.Proofs.Notification.Fields
import Chronicle.Proofs.Notification.Spelling
import Chronicle.Proofs.Pipeline
import Chronicle.Proofs.Checked.Viewport
import Chronicle.Proofs.Store.Memory
import Chronicle.Proofs.Stream
