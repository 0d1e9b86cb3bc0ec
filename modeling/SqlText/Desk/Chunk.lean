import SqlText.Desk.Basic
import SqlText.Literal.Write

/-!
Chunks: the texts that appends add to a query. A chunk is made in full before anything is added.
Where the text of a value cannot be had, the failure says of which type the value is.
-/

namespace SqlText.Desk

def rawChunk? (v : Value) : Except Failure String :=
  match v.display? with
  | .ok text => .ok text
  | .error failure => .error (.unformattable .sql v.type failure)

/-- The literal of a value. The library's own failures stay as they are. -/
def literalChunk? (renderers : Renderers) (v : Value) : Except Failure String :=
  match renderers.format? v with
  | .ok text => .ok text
  | .error failure =>
    .error (if failure.kind.isOwn then failure else .unformattable .literal v.type failure)

def identifierChunk? (dialect : Dialect) (v : Value) : Except Failure String := do
  (Quoting.escape (← rawChunk? v) dialect.identifierQuote).text

end SqlText.Desk
