import SqlText.Text.Blank
import SqlText.Url

/-!
Settings of a builder: the dialect, whether built queries are logged, and options that are only
kept. They come from named arguments, then from the environment, and the dialect in the last place
from a database URL.
-/

namespace SqlText

/-- Settings as they were given. The name of the dialect is in lowercase. -/
structure Settings where
  dialect : Value := .text Dialects.defaultName
  logQueries : Value := .bool false
  options : Value := .dict []

structure Environment where
  url : Option String := none
  dialect : Option String := none
  logQueries : Option String := none

namespace Environment

def switchName : String := "CHQUERY_LOG_QUERIES"

def ofVariables (entries : List (String × String)) : Environment where
  url := entries.lookup "CHQUERY_URL"
  dialect := entries.lookup "CHQUERY_DIALECT"
  logQueries := entries.lookup switchName

/-- Reads a switch in any case, with blanks around it. -/
def readSwitch? (name raw : String) : Except Failure Bool :=
  let word := Text.lowercase (Text.trim raw)
  if ["true", "1", "yes", "on"].contains word then pure true
  else if ["false", "0", "no", "off", ""].contains word then pure false
  else throw (.badSwitch name (Text.inspectText raw))

/-- The settings in the environment, by the names that arguments have. -/
def arguments? (env : Environment) : Except Failure (List (String × Value)) := do
  let dialect := env.dialect.toList.map fun name => ("dialect", Value.text name)
  let logQueries ← match env.logQueries with
    | some raw => pure [("log_queries", Value.bool (← readSwitch? switchName raw))]
    | none => pure []
  return dialect ++ logQueries

end Environment

namespace Settings

/-- Settings with a dialect that is registered. -/
def make? (ds : Dialects) (dialect logQueries options : Value) : Except Failure Settings := do
  let dialect ← dialect.lowercase?
  let _ ← ds.resolve? dialect
  return { dialect, logQueries, options }

def resolve? (s : Settings) (ds : Dialects) : Except Failure Dialect := ds.resolve? s.dialect

/-- The arguments with a meaning of their own; all others are options. -/
def isOption (name : String) : Bool := !(["url", "dialect", "log_queries"].contains name)

/-- The name of the dialect: from the arguments, else from the environment, else from the URL. -/
def dialectName? (ds : Dialects) (url : Value) (arguments : List (String × Value)) :
    Except Failure Value :=
  match arguments.lookup "dialect" with
  | some name => pure name
  | none => do
    if ← url.truth? then return .text (← ds.ofUrl? url).name
    else return .text Dialects.defaultName

/-- Settings from named arguments and the environment. A switch in the environment is read even
where an argument makes it void. -/
def create? (ds : Dialects) (env : Environment) (arguments : List (String × Value)) :
    Except Failure Settings := do
  let url := match arguments.lookup "url" with
    | none | some .null => (env.url.map Value.text).getD .null
    | some url => url
  let merged := arguments ++ (← env.arguments?)
  let dialect ← dialectName? ds url merged
  let logQueries := (merged.lookup "log_queries").getD (.bool false)
  let options := (arguments.filter fun a => isOption a.1).map fun a => (Value.text a.1, a.2)
  make? ds dialect logQueries (.dict options)

end Settings

end SqlText
