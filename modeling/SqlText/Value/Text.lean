import SqlText.Text.Inspect
import SqlText.Value.Basic

/-!
The two texts of a value: `Value.inspect?` is the one that messages show, and `Value.display?` the
one that is appended to a query. They differ for texts, numbers with a type in front, and dates; and
a value that holds others always shows these as messages do.
-/

namespace SqlText

def Range.inspect (r : Range) : String :=
  let step := if r.step = 1 then [] else [r.step]
  let numbers := ([r.start, r.stop] ++ step).map fun n => String.ofList (Written.integer n)
  "range(" ++ ", ".intercalate numbers ++ ")"

namespace Value

/-- The shown items of a tuple, where a single item keeps a comma. -/
def tupleText : List String → String
  | [item] => "(" ++ item ++ ",)"
  | items => "(" ++ ", ".intercalate items ++ ")"

/-- The shown items of a set, where the braces of no item would read as a dict. -/
def setText : List String → String
  | [] => "set()"
  | items => "\x7b" ++ ", ".intercalate items ++ "\x7d"

def boolText (b : Bool) : String := if b then "True" else "False"

mutual

def inspect? : Value → Except Failure String
  | null => pure "None"
  | bool b => pure (boolText b)
  | int n => pure (String.ofList (Written.integer n))
  | float x => pure x.written
  | decimal d => pure ("Decimal('" ++ d.written ++ "')")
  | text s => pure (Text.inspectText s)
  | bytes bs => pure (Text.inspectBytes bs)
  | date d => pure d.inspect
  | datetime t => pure t.inspect
  | time c => pure c.inspect
  | duration d => pure d.inspect
  | list items => return "[" ++ ", ".intercalate (← inspectItems? items) ++ "]"
  | tuple items => return tupleText (← inspectItems? items)
  | set items => return setText (← inspectItems? items)
  | dict entries => return "\x7b" ++ ", ".intercalate (← inspectEntries? entries) ++ "\x7d"
  | range r => pure r.inspect
  | derived _ _ base => base.inspect?
  | object _ _ _ face => face.inspected

def inspectItems? : List Value → Except Failure (List String)
  | [] => pure []
  | item :: rest => return (← inspect? item) :: (← inspectItems? rest)

def inspectEntries? : List (Value × Value) → Except Failure (List String)
  | [] => pure []
  | (key, value) :: rest =>
    return ((← inspect? key) ++ ": " ++ (← inspect? value)) :: (← inspectEntries? rest)

end

/-- A value as it is appended to a query. -/
def display? (v : Value) : Except Failure String :=
  match v.core with
  | text s => pure s
  | decimal d => pure d.written
  | date d => pure d.written
  | datetime t => pure t.written
  | time c => pure c.written
  | duration d => pure d.written
  | object _ _ _ face => face.displayed
  | v => v.inspect?

end Value

end SqlText
