import Dossier.AccountId
import Dossier.Alert.Basic
import Dossier.Alert.Check
import Dossier.Alert.Cleaned
import Dossier.Alert.Defect
import Dossier.Alert.Document
import Dossier.Alert.Evaluate
import Dossier.Alert.Match
import Dossier.Alert.Sanitize
import Dossier.Alert.Sanitize.Rule
import Dossier.Alert.Verdict
import Dossier.CommandLine.Invocation
import Dossier.CommandLine.Outcome
import Dossier.CommandLine.Setting
import Dossier.CommandLine.Words
import Dossier.Config
import Dossier.Config.Schema
import Dossier.Document.Basic
import Dossier.Document.Reader
import Dossier.Duration
import Dossier.Fetch.Basic
import Dossier.Fetch.FieldCache
import Dossier.Fetch.Plan
import Dossier.Fetch.Warnings
import Dossier.Graph
import Dossier.Graph.Pool
import Dossier.Graph.Resolver
import Dossier.Json.Basic
import Dossier.Json.Block
import Dossier.Json.Compact
import Dossier.Json.Structure
import Dossier.Layout
import Dossier.Location
import Dossier.Main
import Dossier.Number.Basic
import Dossier.Number.Digits
import Dossier.Number.Double
import Dossier.Number.Shortest
import Dossier.Number.Word
import Dossier.Operator
import Dossier.Payload.Annotate
import Dossier.Payload.Basic
import Dossier.Payload.Render
import Dossier.Proofs.AccountId
import Dossier.Proofs.AccountId.Parsing
import Dossier.Proofs.Alert.Checking
import Dossier.Proofs.Alert.Cleaned
import Dossier.Proofs.Alert.Document
import Dossier.Proofs.Alert.Duplicated
import Dossier.Proofs.Alert.Explained
import Dossier.Proofs.Alert.Failing
import Dossier.Proofs.Alert.Growing
import Dossier.Proofs.Alert.Likeness
import Dossier.Proofs.Alert.Meaning
import Dossier.Proofs.Alert.Merged
import Dossier.Proofs.Alert.Merging
import Dossier.Proofs.Alert.Messages
import Dossier.Proofs.Alert.Provenance
import Dossier.Proofs.Alert.Repetition
import Dossier.Proofs.Alert.Sanitize.Grouping
import Dossier.Proofs.Alert.Sanitize.Idempotence
import Dossier.Proofs.Alert.Sanitize.Reports
import Dossier.Proofs.Alert.Sanitize.Rule
import Dossier.Proofs.Alert.Sanitize.Supply
import Dossier.Proofs.Alert.Sanitize.Survival
import Dossier.Proofs.Alert.Sanitize.Usable
import Dossier.Proofs.Alert.Sanitize.Written
import Dossier.Proofs.Alert.Shorthand
import Dossier.Proofs.Alert.SimpleAsTree
import Dossier.Proofs.Alert.Tree
import Dossier.Proofs.Alert.WellFormed
import Dossier.Proofs.Config
import Dossier.Proofs.Fetch.Chunks
import Dossier.Proofs.Fetch.Configured
import Dossier.Proofs.Fetch.Conversation
import Dossier.Proofs.Fetch.Discipline
import Dossier.Proofs.Fetch.Failure
import Dossier.Proofs.Fetch.Fate
import Dossier.Proofs.Fetch.Followed
import Dossier.Proofs.Fetch.Interleaving
import Dossier.Proofs.Fetch.Isolation
import Dossier.Proofs.Fetch.Job
import Dossier.Proofs.Fetch.Lockstep
import Dossier.Proofs.Fetch.Mirror
import Dossier.Proofs.Fetch.Moves
import Dossier.Proofs.Fetch.Plan
import Dossier.Proofs.Fetch.Returns
import Dossier.Proofs.Fetch.Session
import Dossier.Proofs.Fetch.Steady
import Dossier.Proofs.Fetch.Survey
import Dossier.Proofs.Fetch.Tour
import Dossier.Proofs.Fetch.Transcript
import Dossier.Proofs.Fetch.Visit
import Dossier.Proofs.Fetch.Yield
import Dossier.Proofs.Graph.Belonging
import Dossier.Proofs.Graph.Isolation
import Dossier.Proofs.Graph.Keys
import Dossier.Proofs.Graph.Likeness
import Dossier.Proofs.Graph.Resolving
import Dossier.Proofs.Join
import Dossier.Proofs.Join.Batch
import Dossier.Proofs.Join.Degraded
import Dossier.Proofs.Join.Fetched
import Dossier.Proofs.Join.Owned
import Dossier.Proofs.Join.Pools
import Dossier.Proofs.Join.Reachable
import Dossier.Proofs.Join.Resolved
import Dossier.Proofs.Join.Rows
import Dossier.Proofs.Join.Selection
import Dossier.Proofs.Json.Equality
import Dossier.Proofs.Json.Folding
import Dossier.Proofs.Layout
import Dossier.Proofs.Location.Decoding
import Dossier.Proofs.Matched
import Dossier.Proofs.Payload.Annotation
import Dossier.Proofs.Payload.Attaching
import Dossier.Proofs.Payload.Denoting
import Dossier.Proofs.Payload.Rendering
import Dossier.Proofs.Payload.Repeating
import Dossier.Proofs.Registry
import Dossier.Proofs.Remote.Bodies
import Dossier.Proofs.Remote.Literals
import Dossier.Proofs.Remote.Pages
import Dossier.Proofs.Run.Arranged
import Dossier.Proofs.Run.Batch
import Dossier.Proofs.Run.Displayed
import Dossier.Proofs.Run.Disturbance
import Dossier.Proofs.Run.Exploring
import Dossier.Proofs.Run.Interleaving
import Dossier.Proofs.Run.Likeness
import Dossier.Proofs.Run.Missing
import Dossier.Proofs.Run.Shape
import Dossier.Proofs.Store.Fixture
import Dossier.Proofs.Table
import Dossier.Proofs.Text.Runs
import Dossier.Proofs.Text.Trimming
import Dossier.Record
import Dossier.Registry
import Dossier.Registry.Builtin
import Dossier.Registry.Document
import Dossier.Remote.Address
import Dossier.Remote.Client
import Dossier.Remote.Domain
import Dossier.Remote.Domain.Folding
import Dossier.Remote.Domain.Folding.Tables
import Dossier.Remote.Domain.Label
import Dossier.Remote.Domain.Punycode
import Dossier.Remote.Escape
import Dossier.Remote.Host
import Dossier.Remote.Response
import Dossier.Remote.Soql
import Dossier.Remote.Url
import Dossier.Run
import Dossier.Store.Basic
import Dossier.Store.Fixture
import Dossier.Store.Outage
import Dossier.Table
import Dossier.Text.Blank
import Dossier.Text.Casing
import Dossier.Text.Casing.Tables
import Dossier.Text.Composed
import Dossier.Text.Composed.Tables
import Dossier.Text.Direction
import Dossier.Text.Direction.Basic
import Dossier.Text.Direction.Tables
import Dossier.Text.Joining
import Dossier.Text.Mark
import Dossier.Text.Mark.Tables
import Dossier.Text.Quoted
import Dossier.Text.Quoted.Tables
import Dossier.Text.Ranges
