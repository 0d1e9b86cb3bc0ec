import SqlText.Registries
import SqlText.Settings

/-!
The desk at which one query is written: its builder, the sessions that write to it with a separator,
and everything that was noticed. `Desk.holder?` is the session that has the builder for itself.
-/

namespace SqlText

/-- The query as far as it is written; nothing once it is built. The borrower is the session that
has the builder for itself, by number; the number counts only while that session is on the desk. -/
structure Builder where
  dialect : Dialect
  query : Option String
  borrower : Option Nat

namespace Builder

def isBuilt (b : Builder) : Bool := b.query.isNone

/-- The text so far, which is empty once the query is built. -/
def text (b : Builder) : String := b.query.getD ""

def inspect (b : Builder) : String :=
  let state := match b.query with
    | some text => Text.inspectText text
    | none => "built"
  "QueryBuilder(" ++ state ++ ", dialect=" ++ Text.inspectText b.dialect.name ++ ")"

end Builder

/-- How a session was opened: by the builder, for itself alone, or beside it. -/
inductive Opening
  | borrowing
  | direct
  deriving DecidableEq

/-- A list in the making, with a separator between its items. `separates` holds once there is an
item that the next one has to be separated from. -/
structure Session where
  opening : Opening
  separator : Value
  separates : Bool := false
  isFinished : Bool := false

/-- What is noticed about the use of a builder. -/
inductive Notice
  | usedAfterBuild
  | usedWhileBorrowed
  | usedAfterFinish
  | built (dialect query : String)
  deriving DecidableEq

def Notice.text : Notice → String
  | usedAfterBuild => "QueryBuilder used after build()"
  | usedWhileBorrowed => "QueryBuilder used while a separated session is active"
  | usedAfterFinish => "Separated session used after finish()"
  | built dialect query => "Built query (" ++ dialect ++ "): " ++ query

/-- A builder with its sessions by number, the numbers used so far, and the notices in order. -/
structure Desk where
  registries : Registries
  settings : Settings
  builder : Builder
  sessions : List (Nat × Session) := []
  opened : Nat := 0
  notices : List Notice := []

namespace Desk

def session? (desk : Desk) (id : Nat) : Option Session := desk.sessions.lookup id

/-- The session that has the builder for itself, with its number. -/
def holder? (desk : Desk) : Option (Nat × Session) :=
  desk.builder.borrower.bind fun id => (desk.session? id).map fun s => (id, s)

def isBorrowed (desk : Desk) : Bool := desk.holder?.isSome

/-- A desk with a new builder. The dialect is settled before the first text is looked at. -/
def new? (registries : Registries) (settings : Settings) (choice : DialectChoice) (init : Value) :
    Except Failure Desk := do
  let dialect ← match ← choice.resolve? registries.dialects with
    | some dialect => pure dialect
    | none => settings.resolve? registries.dialects
  let text ← init.display?
  return { registries, settings, builder := { dialect, query := some text, borrower := none } }

end Desk

end SqlText
