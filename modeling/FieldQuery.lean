import FieldQuery.Main
import FieldQuery.Proofs.Blame
import FieldQuery.Proofs.Branches
import FieldQuery.Proofs.Failures
import FieldQuery.Proofs.Outlines
import FieldQuery.Proofs.Reparse
import FieldQuery.Proofs.SinglePass
import FieldQuery.Proofs.Spans
import FieldQuery.Proofs.Strictness
import FieldQuery.Proofs.Supplied
import FieldQuery.Run
import FieldQuery.Token.Cursor
import FieldQuery.Proofs.Unambiguous
import FieldQuery.Proofs.Budget
import FieldQuery.Proofs.Lookahead
import FieldQuery.Proofs.Phrasings
import FieldQuery.Proofs.Duality
import FieldQuery.Proofs.Spacing
import FieldQuery.Proofs.Collections
import FieldQuery.Proofs.Faithful
import FieldQuery.Proofs.Projection
import FieldQuery.Proofs.Unresolved
import FieldQuery.Proofs.Peeking
import FieldQuery.Proofs.WordOperators
import FieldQuery.Proofs.Navigation
import FieldQuery.Proofs.Components
import FieldQuery.Proofs.Calculations
import FieldQuery.Proofs.Orders
import FieldQuery.Proofs.Symmetry
import FieldQuery.Proofs.Negatives
import FieldQuery.Proofs.Parentheses
import FieldQuery.Proofs.FlatChains
import FieldQuery.Proofs.FloatValues
import FieldQuery.Proofs.RoundedIntegers
import FieldQuery.Proofs.StrictOrder
import FieldQuery.Proofs.NumericEquality
import FieldQuery.Proofs.IntegerLiterals
import FieldQuery.Proofs.Containment
import FieldQuery.Proofs.Laziness
import FieldQuery.Proofs.Disjunctions
import FieldQuery.Proofs.Copies
import FieldQuery.Proofs.Shape
import FieldQuery.Proofs.Tiling
