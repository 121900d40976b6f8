import Reckoner.Builtin
import Reckoner.Calendar.Clock
import Reckoner.Calendar.Day
import Reckoner.Calendar.Text
import Reckoner.CommandLine
import Reckoner.Constant
import Reckoner.Context
import Reckoner.Date
import Reckoner.Decimal.Arith
import Reckoner.Decimal.Basic
import Reckoner.Decimal.Binary
import Reckoner.Decimal.Power
import Reckoner.Decimal.Quotient
import Reckoner.Decimal.Shortest
import Reckoner.Decimal.Text
import Reckoner.Decimal.Transcendental
import Reckoner.Error
import Reckoner.Eval.Access
import Reckoner.Eval.Arithmetic
import Reckoner.Eval.Builtin.Array
import Reckoner.Eval.Builtin.Call
import Reckoner.Eval.Builtin.Host
import Reckoner.Eval.Builtin.Number
import Reckoner.Eval.Builtin.Object
import Reckoner.Eval.Builtin.Text
import Reckoner.Eval.Call
import Reckoner.Eval.Compare
import Reckoner.Eval.Convert
import Reckoner.Eval.Expression
import Reckoner.Eval.History
import Reckoner.Eval.Monad
import Reckoner.Evaluate
import Reckoner.Expr
import Reckoner.Grammar.Cursor
import Reckoner.Grammar.Expression
import Reckoner.Grammar.Literal
import Reckoner.Grammar.Operators
import Reckoner.Grammar.Primary
import Reckoner.Grammar.Units
import Reckoner.Json.Number
import Reckoner.Json.Reader
import Reckoner.Kind
import Reckoner.Main
import Reckoner.Operator
import Reckoner.Powers
import Reckoner.Proofs.Outcome
import Reckoner.Proofs.Quantity.WellFormed
import Reckoner.Quantity.Basic
import Reckoner.Quantity.Dimensions
import Reckoner.Session
import Reckoner.Text.Casing
import Reckoner.Text.Digits
import Reckoner.Text.Letter
import Reckoner.Text.Quoted
import Reckoner.Text.Ranges
import Reckoner.Text.Search
import Reckoner.Token.Basic
import Reckoner.Token.Quoted
import Reckoner.Token.Reader
import Reckoner.Token.Shape
import Reckoner.Unit.Rates
import Reckoner.Unit.Table
import Reckoner.Value.Basic
import Reckoner.Value.Entries
import Reckoner.Value.Equality
import Reckoner.Value.Text
import Reckoner.Zone.Basic
import Reckoner.Zone.Data.Africa
import Reckoner.Zone.Data.Aliases
import Reckoner.Zone.Data.America
import Reckoner.Zone.Data.Antarctica
import Reckoner.Zone.Data.Asia
import Reckoner.Zone.Data.Atlantic
import Reckoner.Zone.Data.Australia
import Reckoner.Zone.Data.Etc
import Reckoner.Zone.Data.Europe
import Reckoner.Zone.Data.Indian
import Reckoner.Zone.Data.Pacific
import Reckoner.Zone.Name
import Reckoner.Zone.Region
import Reckoner.Zone.Timetable
import Reckoner.Proofs.Atomic
import Reckoner.Proofs.Discipline.Basic
import Reckoner.Proofs.Discipline.Array
import Reckoner.Proofs.Discipline.Builtin
import Reckoner.Proofs.Discipline.Evaluate
import Reckoner.Proofs.Grammar.Grounded
import Reckoner.Proofs.Decimal.Text
import Reckoner.Proofs.Grammar.Levels
import Reckoner.Proofs.Grammar.Forms
import Reckoner.Proofs.Grammar.Formula
import Reckoner.Proofs.Grammar.Alike
import Reckoner.Proofs.Grammar.Imitation
import Reckoner.Proofs.Grammar.Enclosed
import Reckoner.Proofs.Session.Copy
import Reckoner.Proofs.Session.Values
import Reckoner.Proofs.Quantity.Invariant
import Reckoner.Proofs.Session.Heap
import Reckoner.Proofs.Session.Planted
import Reckoner.Proofs.Session.Separate
import Reckoner.Proofs.Session.Isolation
import Reckoner.Proofs.Session.Frame
import Reckoner.Proofs.Quantity.Exact
import Reckoner.Proofs.Quantity.Size
import Reckoner.Proofs.Quantity.Magnitude
import Reckoner.Proofs.Calls.Approximation
import Reckoner.Proofs.Calls.Evaluate
import Reckoner.Proofs.Calls.Chain
import Reckoner.Proofs.Datum.Basic
import Reckoner.Proofs.Datum.Reading
import Reckoner.Proofs.Token.Fidelity
import Reckoner.Proofs.Token.Panics
import Reckoner.Proofs.Grammar.Sound
import Reckoner.Proofs.Value.Equality
import Reckoner.Proofs.Value.Order
import Reckoner.Proofs.Renaming.Shares
import Reckoner.Proofs.Session.Blame
import Reckoner.Proofs.Assignment.Names
import Reckoner.Proofs.Token.Template
import Reckoner.Proofs.Quantity.Checking
import Reckoner.Proofs.Value.Comparisons
import Reckoner.Proofs.Quantity.Quotient
import Reckoner.Proofs.Quantity.RoundTrip
import Reckoner.Proofs.History.Sums
import Reckoner.Proofs.Calendar.Shifts
import Reckoner.Proofs.Zone.Skipped
import Reckoner.Proofs.Calendar.Months
import Reckoner.Proofs.Calendar.Durations
import Reckoner.Proofs.Calendar.Text
import Reckoner.Proofs.Calendar.Timestamps
import Reckoner.Proofs.Value.Elements
import Reckoner.Proofs.Callback.Snapshot
import Reckoner.Proofs.Session.Objects
import Reckoner.Proofs.Value.Ranges
import Reckoner.Proofs.Value.Slices
import Reckoner.Proofs.Text.Pieces
import Reckoner.Proofs.Value.Bits
import Reckoner.Proofs.Value.NumericKeys
import Reckoner.Proofs.Value.ZeroPowers
import Reckoner.Proofs.Zone.Offsets
import Reckoner.Proofs.Quantity.Exchange
import Reckoner.Proofs.Grammar.UnitTerms
import Reckoner.Proofs.Value.Divisors
import Reckoner.Proofs.Calls.Depth
import Reckoner.Proofs.Grammar.Bounded
