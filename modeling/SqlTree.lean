import SqlTree.CommandLine
import SqlTree.Decimal.Reading
import SqlTree.Form.Decode
import SqlTree.Json.Reader
import SqlTree.Main
import SqlTree.Proofs.Form.Nulls
import SqlTree.Proofs.Form.RoundTrip
import SqlTree.Proofs.Grammar.Depth
import SqlTree.Proofs.Grammar.Expressions
import SqlTree.Proofs.Grammar.GatheredStatements
import SqlTree.Proofs.Grammar.IntegerTokens
import SqlTree.Proofs.Grammar.Lookahead
import SqlTree.Proofs.Grammar.Manipulation
import SqlTree.Proofs.Grammar.OperatorCases
import SqlTree.Proofs.Grammar.Sequences
import SqlTree.Proofs.Grammar.SourceOrder
import SqlTree.Proofs.Grammar.Subqueries
import SqlTree.Proofs.Grammar.Thinning
import SqlTree.Proofs.Grammar.TypeTexts
import SqlTree.Proofs.Grammar.Unsupported
import SqlTree.Proofs.Routine.Recasing
import SqlTree.Proofs.Routine.ReferenceLines
import SqlTree.Proofs.Routine.Regions
import SqlTree.Proofs.Routine.Safety
import SqlTree.Proofs.Routine.Sources
import SqlTree.Proofs.Routine.Termination
import SqlTree.Proofs.Token.Rendering
import SqlTree.Proofs.Token.Words
import SqlTree.Proofs.Traversal.Failures
import SqlTree.Proofs.Traversal.Handlers
import SqlTree.Proofs.Traversal.Renaming
import SqlTree.Proofs.Traversal.Settling
import SqlTree.Traversal.Edit
import SqlTree.Tree.Equality
