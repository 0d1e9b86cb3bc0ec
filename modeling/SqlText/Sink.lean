import SqlText.Failure.Basic

/-!
Text sinks. A writer is a computation that hands pieces of text to a sink, one after the other, and
may fail on the way; the pieces handed over before stay written. A sink with limited room fails on
the first piece that it has no room for.
-/

namespace SqlText

/-- The pieces accepted so far, and how many more will be accepted; no number means any. -/
structure Sink where
  pieces : Array String := #[]
  room : Option Nat := none
  deriving DecidableEq

abbrev Writer := ExceptT Failure (StateM Sink)

namespace Sink

/-- The sink after one more piece, unless it is full. -/
def accept? (sink : Sink) (piece : String) : Option Sink :=
  match sink.room with
  | none => some ⟨sink.pieces.push piece, none⟩
  | some 0 => none
  | some (n + 1) => some ⟨sink.pieces.push piece, some n⟩

def text (sink : Sink) : String := String.join sink.pieces.toList

end Sink

namespace Writer

def put (piece : String) : Writer Unit := do
  match (← get).accept? piece with
  | some sink => set sink
  | none => throw .sinkFull

/-- A result that may be a failure, without writing anything. -/
def ofExcept {α : Type} : Except Failure α → Writer α
  | .ok a => pure a
  | .error failure => throw failure

def putAll : List String → Writer Unit
  | [] => pure ()
  | piece :: rest => do
    put piece
    putAll rest

/-- Runs a writer on a sink that has room for as many pieces as given. -/
def run (w : Writer Unit) (room : Option Nat) : Except Failure Unit × Sink :=
  StateT.run (ExceptT.run w) { room }

/-- Everything that a writer writes, joined, if it succeeds. -/
def text (w : Writer Unit) : Except Failure String :=
  match w.run none with
  | (.ok _, sink) => .ok sink.text
  | (.error failure, _) => .error failure

end Writer

end SqlText
