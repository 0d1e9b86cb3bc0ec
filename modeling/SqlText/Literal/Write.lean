import SqlText.Literal.Renderers
import SqlText.Value.Text
import SqlText.Value.Token

/-!
Values as SQL literals. A registered renderer comes first, then the one that the value carries, then
the rule for its built-in type. The choice is made afresh for every item of a list and for every
value that a renderer writes.
-/

namespace SqlText.Renderers

/-- How deeply renderers may call one another. -/
def nestingLimit : Nat := 1000

/-- Renders a value by the renderer that has precedence over the rule for its built-in type. -/
def choose (rs : Renderers) (run : Renderer → Value → Writer Unit) (v : Value)
    (otherwise : Writer Unit) : Writer Unit :=
  match (rs.nearest? v.lineage).or v.ownRenderer? with
  | some renderer => run renderer v
  | none => otherwise

mutual

/-- The rule for a built-in type. It is applied to the value behind the derived types of `whole`,
which is the one that messages speak of. -/
def builtIn (rs : Renderers) (run : Renderer → Value → Writer Unit) (whole : Value) :
    Value → Writer Unit
  | .null => Writer.put "NULL"
  | .bool b => Writer.put (if b then "true" else "false")
  | .int n => Writer.put (String.ofList (Written.integer n))
  | .float x => Writer.put x.written
  | .decimal d => Writer.put d.written
  | .text s => Quoting.escape s Quoting.literalQuote
  | .date d => Quoting.escape d.written Quoting.literalQuote
  | .datetime t =>
    match t.toUtc? with
    | some utc => Quoting.escape utc.written Quoting.literalQuote
    | none => throw .dateOutOfRange
  | .list items | .tuple items => do
    Writer.put "["
    writeItems rs run true items
    Writer.put "]"
  | .derived _ _ base => builtIn rs run whole base
  | .bytes _ | .time _ | .duration _ | .set _ | .dict _ | .range _ | .object .. => do
    let shown ← Writer.ofExcept whole.inspect?
    throw (.unsupportedLiteral whole.type shown)

/-- Literals with a comma and a blank before each but the first. -/
def writeItems (rs : Renderers) (run : Renderer → Value → Writer Unit) (first : Bool) :
    List Value → Writer Unit
  | [] => pure ()
  | item :: rest => do
    unless first do Writer.put ", "
    rs.choose run item (builtIn rs run item item)
    writeItems rs run false rest

end

/-- Writes a literal, given how renderers are run. -/
def writeWith (rs : Renderers) (run : Renderer → Value → Writer Unit) (v : Value) : Writer Unit :=
  rs.choose run v (rs.builtIn run v v)

/-- Renders items with a separator before each but the first. -/
def renderEach (render : Value → Writer Unit) (separator : String) (first : Bool) :
    List Value → Writer Unit
  | [] => pure ()
  | item :: rest => do
    unless first do Writer.put separator
    render item
    renderEach render separator false rest

def runStep (render : Value → Writer Unit) (v : Value) : Step → Writer Unit
  | .put piece => Writer.put piece
  | .display => do Writer.put (← Writer.ofExcept v.display?)
  | .inspect => do Writer.put (← Writer.ofExcept v.inspect?)
  | .quoted => do render (.text (← Writer.ofExcept v.display?))
  | .render w => render w
  | .each separator =>
    match v.items? with
    | some items => renderEach render separator true items
    | none => throw (.notIterable v.type)
  | .fail kind message => throw (.raised kind message)

def runSteps (render : Value → Writer Unit) (v : Value) : Renderer → Writer Unit
  | [] => pure ()
  | step :: rest => do
    runStep render v step
    runSteps render v rest

/-- Runs a renderer, where renderers may call one another `depth` times in a row. -/
def run (rs : Renderers) : (depth : Nat) → Renderer → Value → Writer Unit
  | 0, _, _ => throw .tooDeep
  | depth + 1, renderer, v => runSteps (rs.writeWith (run rs depth)) v renderer

def write (rs : Renderers) (v : Value) : Writer Unit := rs.writeWith (rs.run nestingLimit) v

def format? (rs : Renderers) (v : Value) : Except Failure String := (rs.write v).text

end SqlText.Renderers
