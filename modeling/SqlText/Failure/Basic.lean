import SqlText.Failure.Kind
import SqlText.TypeName

/-!
Everything that can go wrong, as causes. The text of a failure is its message, then the advice, then
the context, each in a paragraph of its own.
-/

namespace SqlText

/-- What was being turned into text when it failed. -/
inductive FormatPart
  | sql
  | literal
  deriving DecidableEq

/-- Why something failed. Values appear by the text that messages show for them. -/
inductive Failure
  /-- The code of a user's value or renderer reported a failure. -/
  | raised (kind : ErrorKind) (message : String)
  /-- No dialect has this name; `key` is the name that was looked up. -/
  | unknownDialect (name key : String) (known : List String)
  | unknownKey (key : String)
  /-- What was given as a database URL is none. -/
  | badUrl (shown : String) (cause : Failure)
  | urlMismatch
  | urlNotText (shown : String)
  | badPort (shown : String)
  /-- An environment variable that switches something holds neither yes nor no. -/
  | badSwitch (name shown : String)
  | unsupportedLiteral (type : TypeName) (shown : String)
  | unformattable (part : FormatPart) (type : TypeName) (cause : Failure)
  /-- The builder has handed out its query. -/
  | alreadyBuilt
  /-- The session has handed back its builder. -/
  | sessionFinished
  /-- A session with this separator holds the builder. -/
  | builderBorrowed (separator : String)
  /-- The buffer of a builder that has been built takes no more text. -/
  | closed
  | sinkFull
  | emptyQuote
  | dateOutOfRange
  | missingOperation (type : TypeName) (operation : String)
  | bytesExpected
  | notIterable (type : TypeName)
  /-- Renderers call one another too deeply. -/
  | tooDeep
  deriving DecidableEq

namespace Failure

def kind : Failure → ErrorKind
  | raised kind _ => kind
  | unknownDialect .. | badUrl .. | badSwitch .. => .validation
  | unknownKey _ => .missingKey
  | urlMismatch | urlNotText _ => .badArgument
  | badPort _ | closed | emptyQuote => .invalidValue
  | unsupportedLiteral .. => .unsupportedLiteral
  | unformattable .. => .format
  | alreadyBuilt | sessionFinished => .builderFinalized
  | builderBorrowed _ => .builderBorrowed
  | sinkFull => .system
  | dateOutOfRange => .overflow
  | missingOperation .. => .missingOperation
  | bytesExpected | notIterable _ => .wrongType
  | tooDeep => .nesting

def message : Failure → String
  | raised _ message => message
  | unknownDialect name _ _ => "Unknown dialect '" ++ name ++ "'"
  | unknownKey key => key
  | badUrl shown _ => "Could not parse database URL '" ++ shown ++ "'"
  | urlMismatch => "Could not parse SQLAlchemy URL from given URL string"
  | urlNotText shown => "Expected string or URL object, got " ++ shown
  | badPort shown => "invalid literal for int() with base 10: " ++ shown
  | badSwitch name shown =>
    "Invalid boolean in environment variable " ++ name ++ ": " ++ shown
  | unsupportedLiteral type _ => "Unsupported literal type: " ++ type.tag
  | unformattable .sql _ _ => "error formatting `sql`"
  | unformattable .literal _ _ => "error formatting literal"
  | alreadyBuilt => "QueryBuilder has already been built"
  | sessionFinished => "Separated session has already finished"
  | builderBorrowed _ => "QueryBuilder is borrowed by an active separated session"
  | closed => "I/O operation on closed file"
  | sinkFull => "sink is full"
  | emptyQuote => "empty separator"
  | dateOutOfRange => "date value out of range"
  | missingOperation type operation =>
    "'" ++ type.owner ++ "' object has no attribute '" ++ operation ++ "'"
  | bytesExpected => "a bytes-like object is required, not 'str'"
  | notIterable type => "'" ++ type.owner ++ "' object is not iterable"
  | tooDeep => "maximum recursion depth exceeded"

def advice (f : Failure) : Option String := f.kind.advice f.message

/-- The circumstances, as names with texts. -/
def context : Failure → List (String × String)
  | unknownDialect _ _ known => [("known", ", ".intercalate known)]
  | badSwitch .. => [("accepted", "true, 1, yes, on, false, 0, no, off")]
  | unsupportedLiteral _ shown => [("value", shown)]
  | unformattable _ type _ => [("type", type.label)]
  | builderBorrowed separator => [("separator", separator)]
  | _ => []

/-- The failure that this one reports on. -/
def cause? : Failure → Option Failure
  | unknownDialect _ key _ => some (unknownKey key)
  | badUrl _ cause | unformattable _ _ cause => some cause
  | _ => none

/-- Message, advice and context in paragraphs; a part that is missing takes no space. -/
def compose (message : String) (advice : Option String) (context : List (String × String)) :
    String :=
  let advice := match advice with
    | some text => "\n\nSuggestion: " ++ text
    | none => ""
  let context := if context.isEmpty then ""
    else "\n\nContext: " ++ ", ".intercalate (context.map fun (name, text) => name ++ "=" ++ text)
  message ++ advice ++ context

def text (f : Failure) : String := compose f.message f.advice f.context

end Failure

end SqlText
