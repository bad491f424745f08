import DocQuery.Collections
import DocQuery.Condition
import DocQuery.Double.Basic
import DocQuery.Double.Reader
import DocQuery.Double.Shortest
import DocQuery.Double.Text
import DocQuery.Expression
import DocQuery.Filter.Basic
import DocQuery.Filter.Raw
import DocQuery.Function
import DocQuery.Join
import DocQuery.Json.Basic
import DocQuery.Json.Decode
import DocQuery.Json.Extended
import DocQuery.Json.Number
import DocQuery.Json.Reader
import DocQuery.Logging
import DocQuery.Mutation
import DocQuery.Operator
import DocQuery.Path
import DocQuery.Pipeline
import DocQuery.Proofs.Condition.Comparisons
import DocQuery.Proofs.Condition.Mentions
import DocQuery.Proofs.Condition.Verdict
import DocQuery.Proofs.Condition.Widths
import DocQuery.Proofs.Document.Fields
import DocQuery.Proofs.Document.Reordering
import DocQuery.Proofs.Double.Integers
import DocQuery.Proofs.Double.Sums
import DocQuery.Proofs.Expression.Keys
import DocQuery.Proofs.Expression.References
import DocQuery.Proofs.Filter.Clauses
import DocQuery.Proofs.Filter.Text
import DocQuery.Proofs.Group.Extremes
import DocQuery.Proofs.Group.Partition
import DocQuery.Proofs.Group.Ties
import DocQuery.Proofs.Join.EqualityForms
import DocQuery.Proofs.Join.Names
import DocQuery.Proofs.Join.NestedLoop
import DocQuery.Proofs.Mutation.Increments
import DocQuery.Proofs.Mutation.Pulls
import DocQuery.Proofs.Mutation.Pushes
import DocQuery.Proofs.Mutation.Steps
import DocQuery.Proofs.Mutation.Unchanged
import DocQuery.Proofs.Path.Lens
import DocQuery.Proofs.Path.Reach
import DocQuery.Proofs.Path.ReadBack
import DocQuery.Proofs.Path.Removal
import DocQuery.Proofs.Pipeline.Faults
import DocQuery.Proofs.Pipeline.Rows
import DocQuery.Proofs.Projection.Inclusion
import DocQuery.Proofs.Projection.Views
import DocQuery.Proofs.Query.Associativity
import DocQuery.Proofs.Query.Changes
import DocQuery.Proofs.Query.Counting
import DocQuery.Proofs.Query.Deletion
import DocQuery.Proofs.Query.Edits
import DocQuery.Proofs.Query.Extremes
import DocQuery.Proofs.Query.Failures
import DocQuery.Proofs.Query.FirstRow
import DocQuery.Proofs.Query.Indexing
import DocQuery.Proofs.Query.InsertionOrder
import DocQuery.Proofs.Query.Lengths
import DocQuery.Proofs.Query.Merge
import DocQuery.Proofs.Query.Paging
import DocQuery.Proofs.Query.Refusal
import DocQuery.Proofs.Query.Reuse
import DocQuery.Proofs.Query.Selecting
import DocQuery.Proofs.Query.Sources
import DocQuery.Proofs.Query.WellFormed
import DocQuery.Proofs.Regex.Builtin
import DocQuery.Proofs.Regex.Meaning
import DocQuery.Proofs.Regex.Spans
import DocQuery.Proofs.Result
import DocQuery.Proofs.Rows.Keyed
import DocQuery.Proofs.Selection.Projection
import DocQuery.Proofs.Selection.Resolution
import DocQuery.Proofs.Sort.Stability
import DocQuery.Proofs.Sort.Uniqueness
import DocQuery.Proofs.Store.Repetition
import DocQuery.Proofs.Store.Updates
import DocQuery.Proofs.Trace.Captures
import DocQuery.Proofs.Unwind.Items
import DocQuery.Proofs.Update.Decomposition
import DocQuery.Proofs.Value.Equality
import DocQuery.Proofs.Value.Equivalence
import DocQuery.Proofs.Value.Integers
import DocQuery.Proofs.Value.Order
import DocQuery.Proofs.Value.Sameness
import DocQuery.Query.Assembly
import DocQuery.Query.Basic
import DocQuery.Query.Run
import DocQuery.Query.State
import DocQuery.QueryError
import DocQuery.Regex.Basic
import DocQuery.Regex.CharClass
import DocQuery.Regex.Engine
import DocQuery.Regex.Matcher
import DocQuery.Regex.Pattern
import DocQuery.Regex.Reader
import DocQuery.Rows
import DocQuery.Selection
import DocQuery.Settings
import DocQuery.Stage.Group
import DocQuery.Stage.Project
import DocQuery.Stage.Sort
import DocQuery.Stage.Unwind
import DocQuery.Store
import DocQuery.StoreError
import DocQuery.Text.Base64
import DocQuery.Text.Hex
import DocQuery.Text.Integer
import DocQuery.Time.Calendar
import DocQuery.Time.Rfc3339
import DocQuery.Toml.Basic
import DocQuery.Toml.Reader
import DocQuery.Toml.Scalar
import DocQuery.Trace
import DocQuery.Unicode.Category
import DocQuery.Unicode.Folding
import DocQuery.Unicode.Property
import DocQuery.Unicode.Runs
import DocQuery.Unicode.Script
import DocQuery.Update
import DocQuery.Value.Basic
import DocQuery.Value.Decimal
import DocQuery.Value.Equality
import DocQuery.Value.Order
import DocQuery.Value.Text
