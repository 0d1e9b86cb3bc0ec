import SqlText.Text.Lowercase
import SqlText.Value.Text
import SqlText.Value.Token

/-!
SQL dialects and the names under which they are registered. A name is looked up in lowercase, so
registrations and look-ups do not see case.
-/

namespace SqlText

/-- A dialect, which for a query comes down to the quote of its identifiers. -/
structure Dialect where
  name : String
  identifierQuote : String := Quoting.identifierQuote
  deriving DecidableEq

namespace Value

/-- A letter of ASCII in lowercase, and any other byte itself. -/
def lowercaseByte (b : UInt8) : UInt8 := if 0x41 ≤ b && b ≤ 0x5a then b + 0x20 else b

/-- A value in lowercase. Only texts and bytes have such a form. -/
def lowercase? (v : Value) : Except Failure Value :=
  match v.core with
  | text s => pure (text (Text.lowercase s))
  | bytes bs => pure (bytes (bs.map lowercaseByte))
  | _ => throw (.missingOperation v.type "lower")

end Value

/-- The registered dialects by their lowercase names. -/
structure Dialects where
  entries : List (String × Dialect)

namespace Dialects

/-- The dialects known from the start. -/
def standard : Dialects where
  entries := [("clickhouse", { name := "clickhouse" }), ("mysql", { name := "mysql" }),
    ("mariadb", { name := "mysql" })]

def defaultName : String := "clickhouse"

/-- Registers a dialect under one lowercase name, in the place of the one that had it. -/
def insert (ds : Dialects) (key : String) (dialect : Dialect) : Dialects :=
  ⟨(key, dialect) :: ds.entries.filter (·.1 != key)⟩

def find? (ds : Dialects) (key : String) : Option Dialect :=
  (ds.entries.find? (·.1 == key)).map (·.2)

/-- Registers a dialect under its own name and others. -/
def register (ds : Dialects) (dialect : Dialect) (aliases : List String) : Dialects :=
  (dialect.name :: aliases).foldl (fun ds name => ds.insert (Text.lowercase name) dialect) ds

/-- Puts a name in its place among names in order. -/
def insertName (name : String) : List String → List String
  | [] => [name]
  | first :: rest => if name ≤ first then name :: first :: rest else first :: insertName name rest

def names (ds : Dialects) : List String := (ds.entries.map (·.1)).foldr insertName []

/-- The dialect of a name, in any case. -/
def resolve? (ds : Dialects) (name : Value) : Except Failure Dialect := do
  let key ← name.lowercase?
  let found := match key with
    | .text key => ds.find? key
    | _ => none
  match found with
  | some dialect => pure dialect
  | none => throw (.unknownDialect (← name.display?) (← key.inspect?) ds.names)

end Dialects

/-- How a dialect is asked for: not at all, by a name, or by itself. -/
inductive DialectChoice
  | unspecified
  | named (name : String)
  | given (dialect : Dialect)

def DialectChoice.resolve? (choice : DialectChoice) (ds : Dialects) :
    Except Failure (Option Dialect) :=
  match choice with
  | .unspecified => pure none
  | .named name => some <$> ds.resolve? (.text name)
  | .given dialect => pure (some dialect)

/-- A text value as an identifier. The dialect is settled before the value is looked at. -/
def Dialects.quoteIdentifier? (ds : Dialects) (choice : DialectChoice) (src : Value) :
    Except Failure String := do
  let dialect ← choice.resolve? ds
  src.quote? ((dialect.map (·.identifierQuote)).getD Quoting.identifierQuote)

end SqlText
