/-!
Names of types: those of the built-in values and those that users declare, in the three forms in
which messages give them.
-/

namespace SqlText

inductive TypeName
  | null | bool | int | float | decimal | text | bytes
  | date | datetime | time | duration
  | list | tuple | set | dict | range | object
  | declared (home name : String)
  deriving DecidableEq

namespace TypeName

def label : TypeName → String
  | null => "NoneType"
  | bool => "bool"
  | int => "int"
  | float => "float"
  | decimal => "Decimal"
  | text => "str"
  | bytes => "bytes"
  | date => "date"
  | datetime => "datetime"
  | time => "time"
  | duration => "timedelta"
  | list => "list"
  | tuple => "tuple"
  | set => "set"
  | dict => "dict"
  | range => "range"
  | object => "object"
  | declared _ name => name

/-- Where a type is kept, unless its name is known everywhere. -/
def home? : TypeName → Option String
  | date | datetime | time | duration => some "datetime"
  | decimal => some "decimal"
  | declared home _ => some home
  | _ => none

/-- The short name behind the place where the type is kept. -/
def path (t : TypeName) : String :=
  match t.home? with
  | some home => home ++ "." ++ t.label
  | none => t.label

/-- The type as messages show it. -/
def tag (t : TypeName) : String := "<class '" ++ t.path ++ "'>"

/-- The name under which a value reports that it lacks an operation. -/
def owner (t : TypeName) : String :=
  match t with
  | declared _ name => name
  | t => t.path

end TypeName

end SqlText
