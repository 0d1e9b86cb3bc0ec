import SqlText.Desk.Chunk

/-!
Commands on a desk. A command that fails leaves the desk as it was, but for a notice. The exception
is a `build` that fails because the settings do not say whether the query is logged: the builder has
forgotten the query by then.
-/

namespace SqlText

/-- What may be appended to a query. -/
inductive Item
  | raw (v : Value)
  | literal (v : Value)
  | identifier (v : Value)

inductive BuilderCommand
  | push (item : Item)
  /-- Opens a session that has the builder for itself. -/
  | separated (separator : Value)
  | build

inductive SessionCommand
  /-- Enters a block that the session is left with. -/
  | enter
  | push (item : Item)
  | pushUnseparated (v : Value)
  | finish
  /-- Finishes the session unless it is finished. -/
  | leave

inductive SettingsField
  | dialect
  | logQueries
  | options

inductive Command
  | builder (command : BuilderCommand)
  /-- Opens a session beside the builder's own use. -/
  | openDirect (separator : Value)
  | session (id : Nat) (command : SessionCommand)
  /-- Takes a session off the desk, without a word to the builder. -/
  | forget (id : Nat)
  | register (registration : Registration)
  | assign (field : SettingsField) (v : Value)

inductive Reply
  | builder
  | session (id : Nat)
  | query (text : String)
  | done
  | noSession
  deriving DecidableEq

def Settings.assign (s : Settings) (v : Value) : SettingsField → Settings
  | .dialect => { s with dialect := v }
  | .logQueries => { s with logQueries := v }
  | .options => { s with options := v }

namespace Desk

abbrev Action := ExceptT Failure (StateM Desk)

def notice (n : Notice) : Action Unit :=
  modify fun desk => { desk with notices := desk.notices ++ [n] }

def ofExcept {α : Type} : Except Failure α → Action α
  | .ok a => pure a
  | .error failure => throw failure

def chunk? (desk : Desk) : Item → Except Failure String
  | .raw v => rawChunk? v
  | .literal v => literalChunk? desk.registries.renderers v
  | .identifier v => identifierChunk? desk.builder.dialect v

/-- Adds text to the query, which is impossible once it is built. -/
def append (text : String) : Action Unit := do
  let desk ← get
  match desk.builder.query with
  | some query => set { desk with builder := { desk.builder with query := some (query ++ text) } }
  | none => throw .closed

def setSession (id : Nat) (s : Session) : Action Unit :=
  modify fun desk =>
    { desk with sessions := desk.sessions.map fun e => if e.1 == id then (id, s) else e }

/-- Puts a session on the desk, under a number that was never used before. -/
def openSession (opening : Opening) (separator : Value) : Action Nat := do
  let desk ← get
  set { desk with
    sessions := (desk.opened, { opening, separator }) :: desk.sessions
    opened := desk.opened + 1 }
  return desk.opened

/-- The session that has the builder for itself. A borrower that is no longer on the desk is struck
out. -/
def holder : Action (Option (Nat × Session)) := do
  let desk ← get
  if desk.holder?.isNone then
    set { desk with builder := { desk.builder with borrower := none } }
  return desk.holder?

/-- Refuses the use of a builder that has been built or that a session holds. -/
def checkUsable : Action Unit := do
  if (← get).builder.isBuilt then
    notice .usedAfterBuild
    throw .alreadyBuilt
  match ← holder with
  | none => pure ()
  | some (_, session) =>
    notice .usedWhileBorrowed
    throw (.builderBorrowed (← ofExcept session.separator.inspect?))

/-- Refuses the use of a session that is finished. -/
def checkActive (s : Session) : Action Unit :=
  if s.isFinished then do
    notice .usedAfterFinish
    throw .sessionFinished
  else pure ()

/-- Hands out the query, which the builder forgets, and tells of it if the settings say so. They are
asked last, so that the query is lost where they fail to answer. -/
def build : Action String := do
  let desk ← get
  let query := desk.builder.text
  set { desk with builder := { desk.builder with query := none } }
  if ← ofExcept desk.settings.logQueries.truth? then
    notice (.built desk.builder.dialect.name query)
  return query

def runBuilder (command : BuilderCommand) : Action Reply := do
  checkUsable
  match command with
  | .push item =>
    append (← ofExcept ((← get).chunk? item))
    return .builder
  | .separated separator =>
    let id ← openSession .borrowing separator
    modify fun desk => { desk with builder := { desk.builder with borrower := some id } }
    return .session id
  | .build => return .query (← build)

/-- Adds an item to a session. The separator is written with it, and from the first item on. -/
def pushItem (id : Nat) (s : Session) (item : Item) : Action Unit := do
  let text ← ofExcept ((← get).chunk? item)
  if s.separates then
    append ((← ofExcept (rawChunk? s.separator)) ++ text)
  else
    append text
    setSession id { s with separates := true }

/-- Hands the builder back if this session holds it. -/
def release (id : Nat) : Action Unit := do
  if (← holder).map (·.1) = some id then
    modify fun desk => { desk with builder := { desk.builder with borrower := none } }

/-- Ends a session, after which it stays on the desk. -/
def finish (id : Nat) (s : Session) : Action Unit := do
  release id
  setSession id { s with isFinished := true }

/-- Takes a session off the desk, finished or not. -/
def forget (id : Nat) : Action Unit :=
  modify fun desk => { desk with sessions := desk.sessions.filter (·.1 != id) }

def runSession (id : Nat) (s : Session) : SessionCommand → Action Reply
  | .enter => return .session id
  | .push item => do
    checkActive s
    pushItem id s item
    return .session id
  | .pushUnseparated v => do
    checkActive s
    append (← ofExcept (rawChunk? v))
    return .session id
  | .finish => do
    checkActive s
    finish id s
    return .builder
  | .leave => do
    unless s.isFinished do finish id s
    return .done

def run : Command → Action Reply
  | .builder command => runBuilder command
  | .openDirect separator => return .session (← openSession .direct separator)
  | .session id command => do
    match (← get).session? id with
    | some s => runSession id s command
    | none => return .noSession
  | .forget id => do
    forget id
    return .done
  | .register registration => do
    modify fun desk => { desk with registries := desk.registries.apply registration }
    return .done
  | .assign field v => do
    modify fun desk => { desk with settings := desk.settings.assign v field }
    return .done

/-- The answer to a command, and the desk after it. -/
def step (desk : Desk) (command : Command) : Except Failure Reply × Desk :=
  StateT.run (ExceptT.run (run command)) desk

end Desk

end SqlText
