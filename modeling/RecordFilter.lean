import RecordFilter.Condition.Serialized
import RecordFilter.Delivery
import RecordFilter.Main
import RecordFilter.Session.Workspace
import RecordFilter.Proofs.Condition.Flattening
import RecordFilter.Proofs.Expression.Connection
import RecordFilter.Proofs.Expression.Outcome
import RecordFilter.Proofs.Expression.RoundTrip
import RecordFilter.Proofs.Pattern.Anchoring
import RecordFilter.Proofs.Session.Isolation
import RecordFilter.Proofs.Session.Query
import RecordFilter.Proofs.Evaluation.Refusal
import RecordFilter.Proofs.Session.Narrowing
import RecordFilter.Proofs.Comparison.Order
import RecordFilter.Proofs.Expression.Grammar
import RecordFilter.Proofs.Expression.Tokens
import RecordFilter.Proofs.Expression.Literals
import RecordFilter.Proofs.Expression.Recognition
import RecordFilter.Proofs.Rendering.Reduction
import RecordFilter.Proofs.Session.EmptyGroups
import RecordFilter.Proofs.Path.Joining
import RecordFilter.Proofs.Condition.Members
import RecordFilter.Proofs.Session.Navigation
import RecordFilter.Proofs.Condition.Spellings
import RecordFilter.Proofs.Comparison.Equality
import RecordFilter.Proofs.Numeric.Rounding
import RecordFilter.Proofs.Comparison.IntegerTexts
import RecordFilter.Proofs.Command.Accepted
import RecordFilter.Proofs.Session.Agreement
import RecordFilter.Proofs.Command.Refinement
import RecordFilter.Proofs.Comparison.Integers
import RecordFilter.Proofs.Evaluation.Absence
import RecordFilter.Proofs.Evaluation.Rearrangement
import RecordFilter.Proofs.Condition.Constants
import RecordFilter.Proofs.Evaluation.NullTests
import RecordFilter.Proofs.Evaluation.Membership
import RecordFilter.Proofs.Evaluation.Representation
import RecordFilter.Proofs.Pattern.PlainOperands
import RecordFilter.Proofs.Rendering.Cutoff
import RecordFilter.Proofs.Session.Splicing
import RecordFilter.Proofs.Evaluation.Report
import RecordFilter.Proofs.Evaluation.Subsumption
import RecordFilter.Proofs.Path.Positions
import RecordFilter.Proofs.Pattern.Delimiters
import RecordFilter.Proofs.Path.RoundTrip
import RecordFilter.Proofs.Path.Addressing
import RecordFilter.Proofs.Expression.Pieces
import RecordFilter.Proofs.Comparison.NumericTexts
import RecordFilter.Proofs.Session.CurrentGroup
