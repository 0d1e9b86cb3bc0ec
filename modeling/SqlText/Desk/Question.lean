import SqlText.Desk.Step

/-!
Questions at a desk: what can be learned of the builder and of its sessions without a command. Only
the question whether the builder is borrowed may leave a trace, since a borrower that is no longer
on the desk is struck out where it is looked for.
-/

namespace SqlText

inductive Question
  | text
  /-- The builder as messages show it. -/
  | inspected
  | dialect
  | isBuilt
  | isBorrowed
  | isFinished (id : Nat)

inductive Answer
  | text (s : String)
  | dialect (d : Dialect)
  | flag (b : Bool)
  | noSession
  deriving DecidableEq

namespace Desk

def runQuestion : Question → Action Answer
  | .text => return .text (← get).builder.text
  | .inspected => return .text (← get).builder.inspect
  | .dialect => return .dialect (← get).builder.dialect
  | .isBuilt => return .flag (← get).builder.isBuilt
  | .isBorrowed => return .flag (← holder).isSome
  | .isFinished id => do
    match (← get).session? id with
    | some s => return .flag s.isFinished
    | none => return .noSession

/-- The answer to a question, and the desk after it. -/
def ask (desk : Desk) (question : Question) : Except Failure Answer × Desk :=
  StateT.run (ExceptT.run (runQuestion question)) desk

end Desk

end SqlText
