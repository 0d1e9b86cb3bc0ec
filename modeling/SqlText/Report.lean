import SqlText.Value.Text

/-!
Failures that users report themselves, with values of their own in the place of advice and context.
-/

namespace SqlText

/-- A failure as it is reported: without advice where `suggestion` is null. -/
structure Report where
  kind : ErrorKind
  message : String
  suggestion : Value
  context : List (Value × Value)

namespace Report

/-- Fills in the advice that goes with the kind, unless other advice is given. -/
def make (kind : ErrorKind) (message : String) (suggestion : Value)
    (context : List (Value × Value)) : Report :=
  let suggestion := match suggestion, kind.advice message with
    | .null, some advice => .text advice
    | given, _ => given
  { kind, message, suggestion, context }

/-- The full text. Advice that counts as no is left out. -/
def text? (r : Report) : Except Failure String := do
  let advice ← if ← r.suggestion.truth? then some <$> r.suggestion.display? else pure none
  let context ← r.context.mapM fun (name, value) => return (← name.display?, ← value.display?)
  return Failure.compose r.message advice context

end Report

end SqlText
