import Calculator.Binary64.Interchange
import Calculator.Brackets
import Calculator.Error
import Calculator.Grammar
import Calculator.Main
import Calculator.Postfix
import Calculator.Token.Spelling
import Calculator.Proofs.Simulation
import Calculator.Proofs.ParseTrees
import Calculator.Proofs.Groups
import Calculator.Proofs.Sentences
import Calculator.Proofs.Surplus
import Calculator.Proofs.Outcomes
import Calculator.Proofs.Pieces
import Calculator.Proofs.Provenance
import Calculator.Proofs.Shortfalls
import Calculator.Proofs.Unmatched
import Calculator.Proofs.Culprits
import Calculator.Proofs.Gaps
import Calculator.Proofs.Redisplay
import Calculator.Proofs.OneShot
import Calculator.Proofs.LongestMatch
import Calculator.Proofs.Verbosity
import Calculator.Proofs.Coverage
import Calculator.Proofs.Printing
import Calculator.Proofs.Stages
import Calculator.Proofs.Parenthesized
import Calculator.Proofs.Segments
import Calculator.Proofs.Overflow
import Calculator.Proofs.Leftovers
import Calculator.Proofs.NearestEven
import Calculator.Proofs.Postorder
import Calculator.Proofs.Trace
import Calculator.Proofs.Wordings
