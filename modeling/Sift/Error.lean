import Sift.Number.Decimal

/-!
# Errors

Every stage stops at the first fault that it meets. A fault is a cause with the data that describes
it; the wording of all of them is in this file.

* `Error`: the stage at which a fault arose, with the byte offset for a fault of spelling.
* `Error.message`: the full text.
* `Stop`: a fault of spelling with the place where it was found.
-/

namespace Sift

open Number Text

/-- Statement kinds. -/
inductive Kind where
  | select
  | insert
  | update
  | delete
  deriving DecidableEq, Repr

/-- The name of a kind. -/
def Kind.name : Kind → String
  | .select => "Select"
  | .insert => "Insert"
  | .update => "Update"
  | .delete => "Delete"

/-- Faults of spelling, in filter texts and in closures. -/
inductive LexFault where
  | unexpectedChar (c : Char)
  | openString
  | openComment
  | secondPoint
  | emptyExponent
  | charAfterNumber (c : Char)
  | wordAfterNumber
  | badLiteral (kind : String) (text : String)
  | badNumber (text : String)
  | badHexadecimal
  | badUnicodeEscape
  | outOfRange (text : String)

/-- Faults of grammar and of meaning in filter texts and closures. -/
inductive ParseFault where
  -- shared
  | unexpectedEnd
  | unexpected (token : String)
  | expected (wanted got : String)
  | expectedAtEnd (wanted : String)
  | unknownMember (path : String)
  | unknownMethod (name : String)
  -- filters
  | openParenthesis
  | negativeSign
  | keywordAsOperand (keyword : String)
  | missingArgument (callee : String)
  | callOnPath (path : String)
  | expectedMember (got : Option String)
  | emptyPath
  | unknownOperator (name : String)
  | unexpectedToken (token : String)
  | chainedComparison
  | missingAlias
  -- closure syntax
  | noValue
  | noParameter
  | manyParameters
  | afterClosure (token : String)
  | expectedName (got : String)
  | conditional
  | assignment
  | computedKey (got : String)
  | reservedWord (word : String)
  -- closure meaning
  | parameterAsValue (parameter : String)
  | unresolvedName (name : String)
  | unresolvedProperty (name : String)
  | propertyOfComputed (name : String)
  | namelessCall
  | openArray
  | unsupportedMethod (name : String)
  | unsupportedOperator (symbol : String)
  | minusOperand
  -- constant calls
  | notFinite (function : String)
  | notNumeric (function : String)
  -- custom translations
  | custom (text : String)

/-- How many arguments a function takes. -/
inductive Arity where
  | exactly (n : Nat)
  | atLeast (n : Nat)
  | between (least most : Nat)
  deriving DecidableEq, Repr

/-- An arity in words. -/
def Arity.text : Arity → String
  | .exactly n => natText n
  | .atLeast n => "at least " ++ natText n
  | .between least most => natText least ++ " to " ++ natText most

/-- Faults of expression objects and of statements. -/
inductive FormatFault where
  -- expression objects
  | emptyObject
  | emptyComparison
  | notExpressions (key : String)
  | notTwoOperands (key : String)
  | unexpectedKey (key : String)
  | notASet (key : String)
  | noComparison (key : String)
  -- statements
  | noKind
  | manyKinds (kinds : List Kind)
  | notKind (kind : Kind)
  | noEntity
  | noValues (kind : Kind)
  | joinWithoutAlias
  | joinFields (joined : String) (left right : Nat)
  | subqueryKind
  -- functions
  | unknownFunction (name : String)
  | arity (name : String) (expected : Arity) (got : Nat)

/-- Faults of configuration. -/
inductive ConfigFault where
  | unknownDialect (name : String)
  | noPlaceholder (format : String)
  | notBoolean (setting value : String)
  | badFile
  | badEnvironment

/-- What went wrong, and at which stage. A fault in an expression object inside a serialized
query is a fault of the query's JSON, as is anything else that does not fit its form. -/
inductive Error where
  | lex (offset : Nat) (fault : LexFault)
  | parse (fault : ParseFault)
  | format (fault : FormatFault)
  | config (fault : ConfigFault)
  | json (cause : Option Error)

/-- The wording of a fault of spelling. -/
def LexFault.text : LexFault → String
  | unexpectedChar c => "Unexpected character '" ++ c.toString ++ "'"
  | openString => "Unterminated string literal"
  | openComment => "Unterminated comment"
  | secondPoint => "Invalid numeric literal: decimal point appears twice"
  | emptyExponent => "Invalid numeric literal: exponent without digits"
  | charAfterNumber c => "Invalid numeric literal: unexpected character '" ++ c.toString ++ "'"
  | wordAfterNumber => "Identifier directly after numeric literal"
  | badLiteral kind text => "Invalid " ++ kind ++ " literal '" ++ text ++ "'"
  | badNumber text => "Invalid numeric literal '" ++ text ++ "'"
  | badHexadecimal => "Invalid hexadecimal literal"
  | badUnicodeEscape => "Invalid unicode escape"
  | outOfRange text => "Numeric literal '" ++ text ++ "' is out of range"

/-- The wording of a fault of grammar or meaning. -/
def ParseFault.text : ParseFault → String
  | unexpectedEnd => "Unexpected end of input"
  | unexpected token => "Unexpected '" ++ token ++ "'"
  | expected wanted got => "Expected '" ++ wanted ++ "', got '" ++ got ++ "'"
  | expectedAtEnd wanted => "Expected '" ++ wanted ++ "', got end of input"
  | unknownMember path => "Unknown member '" ++ path ++ "'"
  | unknownMethod name => "Unknown method '" ++ name ++ "'"
  | openParenthesis => "Unterminated parenthesis"
  | negativeSign => "Negative prefix is not supported"
  | keywordAsOperand keyword => "Expected operand, got operator '" ++ keyword ++ "'"
  | missingArgument callee => "Expected an argument after ',' in call to '" ++ callee ++ "'"
  | callOnPath path => "Method call on member path '" ++ path ++ "' is not supported"
  | expectedMember (some got) => "Expected member name after '/', got '" ++ got ++ "'"
  | expectedMember none => "Expected member name after '/', got end of input"
  | emptyPath => "Empty member path"
  | unknownOperator name => "Unknown operator '" ++ name ++ "'"
  | unexpectedToken token => "Unexpected token '" ++ token ++ "'"
  | chainedComparison => "Comparison operators cannot be chained"
  | missingAlias => "Expected alias after 'as'"
  | noValue => "A closure must return a value"
  | noParameter => "A closure must declare one parameter"
  | manyParameters => "A closure must declare exactly one parameter"
  | afterClosure token => "Unexpected '" ++ token ++ "' after closure"
  | expectedName got => "Expected identifier, got '" ++ got ++ "'"
  | conditional => "Conditional expressions are not supported"
  | assignment => "Assignments are not supported"
  | computedKey got => "Computed member access requires a literal key, got '" ++ got ++ "'"
  | reservedWord word => "Unsupported keyword '" ++ word ++ "' in closure body"
  | parameterAsValue parameter =>
    "The closure parameter '" ++ parameter ++ "' cannot be used as a value"
  | unresolvedName name => "Unresolved identifier '" ++ name ++ "'"
  | unresolvedProperty name => "Unresolved property '" ++ name ++ "' on bound value"
  | propertyOfComputed name => "Property '" ++ name ++ "' cannot be read from a computed value"
  | namelessCall => "Only named functions and methods can be called"
  | openArray => "Array elements must be constant"
  | unsupportedMethod name => "Unsupported method '" ++ name ++ "'"
  | unsupportedOperator symbol => "Unsupported operator '" ++ symbol ++ "'"
  | minusOperand => "Unary '-' requires a numeric operand"
  | notFinite function => function ++ " does not produce a finite number"
  | notNumeric function => function ++ " expects numeric arguments"
  | custom text => text

/-- The word for a kind in the middle of a sentence. -/
def Kind.phrase : Kind → String
  | .select => "a select"
  | .insert => "an insert"
  | .update => "an update"
  | .delete => "a delete"

/-- The wording of a fault of an expression object or a statement. -/
def FormatFault.text : FormatFault → String
  | emptyObject => "Empty expression object"
  | emptyComparison => "Empty comparison object"
  | notExpressions key => "Invalid query argument. A logical expression (" ++ key ++
      ") must contain an array of expressions"
  | notTwoOperands key => "Comparison operator " ++ key ++ " expects exactly two operands"
  | unexpectedKey key => "Unexpected key '" ++ key ++ "' in comparison expression"
  | notASet key => "Invalid " ++ key ++ " expression. Value must be an array or a select query"
  | noComparison key => "Operator " ++ key ++ " expects a comparison argument"
  | noKind => "Query expression has no select, insert, update or delete"
  | manyKinds kinds => "Query expression has more than one kind: [" ++
      joinWith ", " (kinds.map Kind.name) ++ "]"
  | notKind kind => "Expected " ++ kind.phrase ++ " query"
  | noEntity => "Query expression has no entity"
  | noValues kind => kind.name ++ " query has no values"
  | joinWithoutAlias => "A joined sub-query requires an alias"
  | joinFields joined left right => "Join on " ++ joined ++ " has " ++ natText left ++
      " left field(s) and " ++ natText right ++ " right field(s)"
  | subqueryKind => "A sub-query must be a select query"
  | unknownFunction name => "Unknown function '" ++ name ++ "'"
  | arity name expected got => "Function '" ++ name ++ "' expects " ++ expected.text ++
      " argument(s), got " ++ natText got

/-- The wording of a fault of configuration. -/
def ConfigFault.text : ConfigFault → String
  | unknownDialect name => "Unknown dialect '" ++ name ++ "'"
  | noPlaceholder format => "name_format '" ++ format ++ "' must contain $1"
  | notBoolean setting value => setting ++ " must be a boolean, got '" ++ value ++ "'"
  | badFile => "Invalid config"
  | badEnvironment => "Failed to load environment file"

/-- The full text of an error. -/
def Error.message : Error → String
  | lex offset fault => "Lex error at offset " ++ natText offset ++ ": " ++ fault.text
  | parse fault => "Parse error: " ++ fault.text
  | format fault => "Format error: " ++ fault.text
  | config fault => "Configuration error: " ++ fault.text
  | json none => "JSON error: malformed value"
  | json (some cause) => "JSON error: " ++ cause.message

/-- A fault and the text from where it was found. -/
structure Stop where
  fault : LexFault
  place : List Char

/-- The error of a fault in a text: its offset is the length of what precedes the place. -/
def Stop.toError (stop : Stop) (source : List Char) : Error :=
  .lex (utf8Length source - utf8Length stop.place) stop.fault

end Sift
