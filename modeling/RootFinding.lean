import RootFinding.Main
import RootFinding.Session.Wire
import RootFinding.Proofs.Bisection.RootCandidate
import RootFinding.Proofs.Bisection.Specification
import RootFinding.Proofs.Session.Failure
import RootFinding.Proofs.Session.Stepping
import RootFinding.Proofs.Formula.Diagnosis
import RootFinding.Proofs.Formula.Height
import RootFinding.Proofs.Formula.Resolution
import RootFinding.Proofs.Formula.RoundTrip
import RootFinding.Proofs.Bisection.Observation
import RootFinding.Proofs.Bisection.Curtailment
import RootFinding.Proofs.Bisection.Reversal
import RootFinding.Proofs.Decimal.Regular
import RootFinding.Proofs.Json.Number
import RootFinding.Proofs.Json.TextPiece
import RootFinding.Proofs.Json.Codec
import RootFinding.Proofs.Session.Wire
import RootFinding.Proofs.Bisection.Underflow
import RootFinding.Proofs.Bisection.Nesting
import RootFinding.Proofs.Bisection.Halving
import RootFinding.Proofs.Bisection.Exhaustion
import RootFinding.Proofs.Formula.Literal
import RootFinding.Proofs.Formula.Blanks
import RootFinding.Proofs.Overflow
import RootFinding.Proofs.Absorption
import RootFinding.Proofs.Session.Curve
import RootFinding.Proofs.Session.VerticalRange
import RootFinding.Proofs.Formula.Recursion
import RootFinding.Proofs.Formula.Tallest
