import TextTemplate.Plan.Outline
import TextTemplate.Proofs.Plan.Matching
import TextTemplate.Proofs.Plan.Descent
import TextTemplate.Proofs.Stream.Tokens
import TextTemplate.Proofs.Span.Decomposition
import TextTemplate.Proofs.Expr.Grammar
import TextTemplate.Proofs.TagHeader.Grammar
import TextTemplate.Proofs.Lexeme.Spelling
import TextTemplate.Proofs.Lexeme.Form
import TextTemplate.Proofs.Stream.Spaced
import TextTemplate.Proofs.Plan.Printing
import TextTemplate.Proofs.Plan.RoundTrip
import TextTemplate.Proofs.Error.Report
import TextTemplate.Proofs.Error.Reading
import TextTemplate.Proofs.Expr.Recognition
import TextTemplate.Proofs.TagHeader.Recognition
import TextTemplate.Proofs.Plan.Limit
import TextTemplate.Proofs.Plan.Nesting
import TextTemplate.Proofs.Plan.BlockStack
import TextTemplate.Proofs.Plan.Interpretation
import TextTemplate.Proofs.Plan.Composition
import TextTemplate.Proofs.Lexeme.Longest
import TextTemplate.Proofs.Stream.Tiling
import TextTemplate.Proofs.Expr.Evaluation
import TextTemplate.Proofs.Plan.Registration
import TextTemplate.Proofs.Stream.Pushback
import TextTemplate.Proofs.Lexeme.Boundary
import TextTemplate.Proofs.Stream.Rereading
import TextTemplate.Proofs.Expr.Failure
import TextTemplate.Proofs.TagHeader.Failure
import TextTemplate.Proofs.Error.FirstFault
import TextTemplate.Proofs.Plan.Substitution
import TextTemplate.Proofs.Stream.Agreement
import TextTemplate.Proofs.TagHeader.Agreement
import TextTemplate.Proofs.TagHeader.Descent
import TextTemplate.Proofs.TagHeader.Pending
import TextTemplate.Proofs.Stream.Lines
import TextTemplate.Proofs.Expr.Indexing
import TextTemplate.Proofs.Plan.Escaping
import TextTemplate.Proofs.Text.Quoted
import TextTemplate.Proofs.Value.Inspection
import TextTemplate.Proofs.Expr.Document
import TextTemplate.Proofs.Context.History
import TextTemplate.Proofs.Expr.Trailers
