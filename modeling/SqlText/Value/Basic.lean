import SqlText.Calendar.DateTime
import SqlText.Failure.Basic
import SqlText.TypeName

/-!
The values that a query can be made of, and the renderers that users give for them. A renderer is a
list of steps; a value of a user's own type may carry one, and others are registered for a type.
-/

namespace SqlText

/-- The numbers from `start` on, `step` apart, before `stop`. -/
structure Range where
  start : Int
  stop : Int
  step : Int
  deriving DecidableEq

def Range.size (r : Range) : Nat :=
  if 0 < r.step then ((r.stop - r.start + r.step - 1) / r.step).toNat
  else ((r.start - r.stop - r.step - 1) / -r.step).toNat

def Range.items (r : Range) : List Int :=
  (List.range r.size).map fun i : Nat => r.start + i * r.step

/-- What the code of an object's user says of it, and may fail to say: the text that is appended to
a query, the text that messages show, and whether the object counts as yes. -/
structure Face where
  displayed : Except Failure String
  inspected : Except Failure String
  truth : Except Failure Bool := .ok true

mutual

inductive Value
  | null
  | bool (b : Bool)
  | int (n : Int)
  | float (x : Binary64)
  | decimal (d : Decimal)
  | text (s : String)
  | bytes (bs : List UInt8)
  | date (d : Date)
  | datetime (t : DateTime)
  | time (c : Clock)
  | duration (d : Duration)
  | list (items : List Value)
  | tuple (items : List Value)
  | set (items : List Value)
  | dict (entries : List (Value × Value))
  | range (r : Range)
  /-- A value of a type derived from that of `base`, perhaps with a renderer of its own. -/
  | derived (type : TypeName) (own : Option (List Step)) (base : Value)
  /-- An object of a type that includes those of `wider`, the nearest first. -/
  | object (type : TypeName) (wider : List TypeName) (own : Option (List Step)) (face : Face)

/-- A step of a renderer, which writes to a sink and sees the value to be rendered. -/
inductive Step
  | put (piece : String)
  /-- Writes the value as it is appended to a query. -/
  | display
  /-- Writes the value as messages show it. -/
  | inspect
  /-- Renders the text of the value. -/
  | quoted
  | render (v : Value)
  /-- Renders the items of the value, with a separator before each but the first. -/
  | each (separator : String)
  | fail (kind : ErrorKind) (message : String)

end

abbrev Renderer := List Step

namespace Value

/-- The type of a value and the wider types that it belongs to, the nearest first. -/
def lineage : Value → List TypeName
  | null => [.null, .object]
  | bool _ => [.bool, .int, .object]
  | int _ => [.int, .object]
  | float _ => [.float, .object]
  | decimal _ => [.decimal, .object]
  | text _ => [.text, .object]
  | bytes _ => [.bytes, .object]
  | date _ => [.date, .object]
  | datetime _ => [.datetime, .date, .object]
  | time _ => [.time, .object]
  | duration _ => [.duration, .object]
  | list _ => [.list, .object]
  | tuple _ => [.tuple, .object]
  | set _ => [.set, .object]
  | dict _ => [.dict, .object]
  | range _ => [.range, .object]
  | derived type _ base => type :: base.lineage
  | object type wider _ _ => type :: wider ++ [.object]

def type (v : Value) : TypeName := v.lineage.headD .object

/-- The built-in value behind derived types. -/
def core : Value → Value
  | derived _ _ base => base.core
  | v => v

/-- The renderer that comes with the value: that of the nearest type which has one. -/
def ownRenderer? : Value → Option Renderer
  | derived _ own base => own.or base.ownRenderer?
  | object _ _ own _ => own
  | _ => none

/-- The items that a pass over the value meets. -/
def items? (v : Value) : Option (List Value) :=
  match v.core with
  | list items | tuple items | set items => some items
  | dict entries => some (entries.map (·.1))
  | text s => some (s.toList.map fun c => text (String.singleton c))
  | bytes bs => some (bs.map fun b => int b.toNat)
  | range r => some (r.items.map int)
  | _ => none

/-- Whether a value counts as yes: nothing, zero and whatever is empty count as no. An object is
asked, and may fail to answer. -/
def truth? (v : Value) : Except Failure Bool :=
  match v.core with
  | null => pure false
  | bool b => pure b
  | int n => pure (n != 0)
  | float x => pure (!x.isZero)
  | decimal d => pure (!d.isZero)
  | text s => pure (!s.isEmpty)
  | bytes bs => pure (!bs.isEmpty)
  | duration d => pure (!d.isZero)
  | list items | tuple items | set items => pure (!items.isEmpty)
  | dict entries => pure (!entries.isEmpty)
  | range r => pure (r.size != 0)
  | object _ _ _ face => face.truth
  | _ => pure true

end Value

end SqlText
