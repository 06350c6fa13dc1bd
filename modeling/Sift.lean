import Sift.Command.Arguments
import Sift.Command.Help
import Sift.Command.Run
import Sift.Config.Basic
import Sift.Config.Document
import Sift.Config.Reader
import Sift.Config.Scalar
import Sift.Config.Variables
import Sift.Error
import Sift.Expr.Basic
import Sift.Expr.Equality
import Sift.Expr.Fold
import Sift.Expr.Operator
import Sift.Filter.DateTime
import Sift.Filter.Lexer
import Sift.Filter.Options
import Sift.Filter.Parser
import Sift.Filter.Sequence
import Sift.Filter.Token
import Sift.Json.Basic
import Sift.Json.Parser
import Sift.Json.Printer
import Sift.Json.Written
import Sift.Lambda.Constant
import Sift.Lambda.Parser
import Sift.Lambda.Term
import Sift.Lambda.Token
import Sift.Lambda.Translate
import Sift.Main
import Sift.Number.Binary64
import Sift.Number.Decimal
import Sift.Number.Shortest
import Sift.Object.Decode
import Sift.Object.Encode
import Sift.Object.Shape
import Sift.Proofs.AllowList
import Sift.Proofs.Constants
import Sift.Proofs.Filter.Completeness
import Sift.Proofs.Filter.Grammar
import Sift.Proofs.Filter.Reading
import Sift.Proofs.Filter.Resolved
import Sift.Proofs.Filter.Soundness
import Sift.Proofs.Filter.Values
import Sift.Proofs.Filter.Verbatim
import Sift.Proofs.Folding
import Sift.Proofs.Lambda.Resolved
import Sift.Proofs.Object.Expressions
import Sift.Proofs.Object.Queries
import Sift.Proofs.Object.RoundTrip
import Sift.Proofs.Object.Safe
import Sift.Proofs.Query.Predicates
import Sift.Proofs.Resolution
import Sift.Proofs.Sql.Arities
import Sift.Proofs.Sql.Characters
import Sift.Proofs.Sql.Literals
import Sift.Proofs.Sql.Pieces
import Sift.Proofs.Sql.Plain
import Sift.Proofs.Sql.Precedence
import Sift.Proofs.Sql.Readback
import Sift.Proofs.Sql.Reader
import Sift.Proofs.Sql.Renderers
import Sift.Proofs.Sql.Scanning
import Sift.Proofs.Sql.Selects
import Sift.Proofs.Sql.Structure
import Sift.Proofs.Sql.Success
import Sift.Proofs.Sql.WellFormed
import Sift.Proofs.Steps
import Sift.Proofs.Tree
import Sift.Proofs.Truth
import Sift.Query.Build
import Sift.Query.Kind
import Sift.Read
import Sift.Resolver
import Sift.Settings
import Sift.Sql.Function
import Sift.Sql.Literal
import Sift.Sql.Name
import Sift.Sql.Statement
import Sift.Sql.Writer
import Sift.Text.Alphabetic
import Sift.Text.Basic
import Sift.Text.Case
import Sift.Text.CaseTable
import Sift.Text.Cased
import Sift.Text.Classes
import Sift.Text.Mark
import Sift.Text.Numeric
import Sift.Proofs.Query.Kinds
import Sift.Proofs.Sql.Twins
import Sift.Proofs.Sql.Dialects
import Sift.Proofs.Number.Exact
import Sift.Proofs.Scanning
import Sift.Proofs.Lambda.Closures
import Sift.Proofs.Filter.Scanning
import Sift.Proofs.Notation.Agreement
import Sift.Proofs.Filter.NormalForm
import Sift.Proofs.Sql.Conditions
import Sift.Proofs.Sql.Places
import Sift.Proofs.Sql.Inserts
import Sift.Proofs.Filter.Selections
import Sift.Proofs.Filter.Places
import Sift.Proofs.Filter.Locality
import Sift.Proofs.Filter.Integers
import Sift.Proofs.Filter.Spelling
import Sift.Proofs.Filter.Calendar
import Sift.Proofs.Filter.Instants
import Sift.Proofs.Filter.Sequences
import Sift.Proofs.Sql.Patterns
import Sift.Proofs.Arithmetic
import Sift.Proofs.Lambda.Meaning
import Sift.Proofs.Lambda.Appending
import Sift.Proofs.Sql.Positions
import Sift.Proofs.Lambda.Positions
import Sift.Proofs.Lambda.Lengths
import Sift.Proofs.Lambda.Numerals
import Sift.Proofs.Inside
import Sift.Proofs.Object.Literals
import Sift.Proofs.Sql.Qualified
import Sift.Proofs.Sql.Templates
import Sift.Proofs.Sql.Objects
import Sift.Proofs.Sql.Depth
import Sift.Proofs.Sql.Classes
import Sift.Proofs.Sql.Correspondence
import Sift.Proofs.Sql.Alike
import Sift.Proofs.Sql.Statements
