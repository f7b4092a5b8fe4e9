import LiveConfig.Binary64.Basic
import LiveConfig.Binary64.Reading
import LiveConfig.Binary64.Rounding
import LiveConfig.Binary64.Shortest
import LiveConfig.Client.Basic
import LiveConfig.Client.Memory
import LiveConfig.Client.Read
import LiveConfig.Client.Update
import LiveConfig.Context.Ambient
import LiveConfig.Context.Basic
import LiveConfig.Context.Json
import LiveConfig.Context.Merge
import LiveConfig.Digest.Md5
import LiveConfig.Digest.Murmur3
import LiveConfig.Distribution
import LiveConfig.Error
import LiveConfig.Evaluation.Error
import LiveConfig.Evaluation.Evaluator
import LiveConfig.Evaluation.Recall
import LiveConfig.Evaluation.Stacks
import LiveConfig.Instant
import LiveConfig.Json.Basic
import LiveConfig.Json.Reader
import LiveConfig.Json.Writer
import LiveConfig.Layers
import LiveConfig.Log
import LiveConfig.LoggerLevel
import LiveConfig.Pattern.Automaton
import LiveConfig.Pattern.Basic
import LiveConfig.Pattern.Class
import LiveConfig.Pattern.Look
import LiveConfig.Pattern.Reader
import LiveConfig.Pattern.Size
import LiveConfig.Reification
import LiveConfig.Rule.Basic
import LiveConfig.Rule.Decision
import LiveConfig.Rule.Json
import LiveConfig.Rule.Operator
import LiveConfig.Rule.Validation
import LiveConfig.Snapshot.Basic
import LiveConfig.Snapshot.Cell
import LiveConfig.Snapshot.Change
import LiveConfig.Snapshot.Store
import LiveConfig.Table
import LiveConfig.Text.Age
import LiveConfig.Text.Blank
import LiveConfig.Text.Boundary
import LiveConfig.Text.Category
import LiveConfig.Text.CodeSet
import LiveConfig.Text.Current
import LiveConfig.Text.Decimal
import LiveConfig.Text.Encoding
import LiveConfig.Text.Fold
import LiveConfig.Text.Pieces
import LiveConfig.Text.Property
import LiveConfig.Text.Quoted
import LiveConfig.Text.Script
import LiveConfig.Value.Basic
import LiveConfig.Value.Detail
import LiveConfig.Value.Json
import LiveConfig.Value.Text
import LiveConfig.Version
import LiveConfig.World
import LiveConfig.Proofs.Evaluation.Choice
import LiveConfig.Proofs.Evaluation.Outcome
import LiveConfig.Proofs.Evaluation.Result
import LiveConfig.Proofs.Evaluation.Plain
import LiveConfig.Proofs.Distribution
import LiveConfig.Proofs.Binary64.Quotient
import LiveConfig.Proofs.Distribution.Shares
import LiveConfig.Proofs.Evaluation.Record
import LiveConfig.Proofs.Evaluation.Kept
import LiveConfig.Proofs.Layers.Run
import LiveConfig.Proofs.Layers.Order
import LiveConfig.Proofs.Layers.Highwater
import LiveConfig.Proofs.Evaluation.Selected
import LiveConfig.Proofs.Confidentiality
import LiveConfig.Proofs.Evaluation.Walk
import LiveConfig.Proofs.Evaluation.Undecided
import LiveConfig.Proofs.Snapshot.Configured
import LiveConfig.Proofs.Client.Published
import LiveConfig.Proofs.Context.Merge
import LiveConfig.Proofs.Client.Replay
import LiveConfig.Proofs.Evaluation.Agreement
import LiveConfig.Proofs.Evaluation.Overlay
import LiveConfig.Proofs.Table
import LiveConfig.Proofs.Evaluation.Contents
import LiveConfig.Proofs.Context.Flattening
import LiveConfig.Proofs.Context.Names
import LiveConfig.Proofs.Layers.Deletion
import LiveConfig.Proofs.Client.Reachable
import LiveConfig.Proofs.Client.Redelivery
import LiveConfig.Proofs.Client.Resume
import LiveConfig.Proofs.Evaluation.Relevance
import LiveConfig.Proofs.Context.Named
import LiveConfig.Proofs.Client.Membership
import LiveConfig.Proofs.Reification
import LiveConfig.Proofs.Snapshot.Clock
import LiveConfig.Proofs.Binary64.Equality
import LiveConfig.Proofs.Distribution.Sticky
import LiveConfig.Proofs.Client.Session
import LiveConfig.Proofs.Client.Paths
import LiveConfig.Proofs.Client.Listeners
import LiveConfig.Proofs.Evaluation.Logging
import LiveConfig.Proofs.Exposure
import LiveConfig.Proofs.Client.Held
import LiveConfig.Proofs.Value.Format
import LiveConfig.Proofs.Rule.Format
import LiveConfig.Proofs.Binary64.Nearest
import LiveConfig.Proofs.Binary64.Shortest
import LiveConfig.Proofs.Json.Text
import LiveConfig.Proofs.Rule.Roundtrip
import LiveConfig.Proofs.Evaluation.Ending
import LiveConfig.Proofs.Rule.Negation
import LiveConfig.Proofs.Binary64.Monotone
import LiveConfig.Proofs.Distribution.Proportion
import LiveConfig.Proofs.Client.Reports
import LiveConfig.Proofs.Snapshot.Difference
import LiveConfig.Proofs.Rule.Validation
import LiveConfig.Proofs.Coercion
import LiveConfig.Proofs.LoggerLevel
import LiveConfig.Proofs.Evaluation.Stacks
