import SqlText.Text.Lowercase

/-!
Kinds of failures, how they include one another, and the advice that goes with them.
-/

namespace SqlText

/-- The kinds of failures. The first seven are the library's own, the others are general. -/
inductive ErrorKind
  | query
  | validation
  | unsupportedLiteral
  | format
  | builderState
  | builderFinalized
  | builderBorrowed
  | invalidValue
  | runtime
  | wrongType
  | system
  | overflow
  | missingOperation
  | missingKey
  | badArgument
  | nesting
  deriving DecidableEq

namespace ErrorKind

/-- The kind itself and every wider one. -/
def ancestry : ErrorKind → List ErrorKind
  | query => [query]
  | validation => [validation, query]
  | unsupportedLiteral => [unsupportedLiteral, query, wrongType]
  | format => [format, query]
  | builderState => [builderState, query]
  | builderFinalized => [builderFinalized, builderState, query]
  | builderBorrowed => [builderBorrowed, builderState, query]
  | kind => [kind]

def isOwn (k : ErrorKind) : Bool := k.ancestry.contains query

/-- Whether a word occurs in a text, at whatever place. -/
def mentions (word : List Char) : List Char → Bool
  | [] => word.isEmpty
  | c :: rest => word.isPrefixOf (c :: rest) || mentions word rest

/-- What a rejected setting calls for, judged by the words of the message in any case. -/
def validationAdvice (message : String) : Option String :=
  let words := (Text.lowercase message).toList
  if mentions "dialect".toList words then
    some ("Use one of the registered dialects (see chquery.engine.dialects.DIALECTS) " ++
      "or register a new DialectSpec.")
  else if mentions "environment".toList words then
    some "Check the CHQUERY_* environment variables for typos."
  else none

/-- The advice given where the one who reports a failure gives none. -/
def advice (kind : ErrorKind) (message : String) : Option String :=
  match kind with
  | validation => validationAdvice message
  | unsupportedLiteral =>
    some ("Implement write_sql_literal(out) on the type, or register a renderer with " ++
      "chquery.sql.literals.register_literal().")
  | builderFinalized => some "Create a new QueryBuilder for each query."
  | builderBorrowed =>
    some ("Push through the Separated view, or call finish() on it (or leave its 'with' block) " ++
      "before using the builder again.")
  | _ => none

end ErrorKind

end SqlText
