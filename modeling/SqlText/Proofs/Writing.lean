import SqlText.Sink

/-!
What a writer hands over. A sink without limit has no say: the pieces and the outcome of a writer
do not depend on what such a sink holds already. `Writer.Yields` is that fact about one writer, and
the lemmas here build it along the shape of the writer, so that what a token or a literal writes is
read off its definition.
-/

namespace SqlText.Writer

/-- On a sink that takes everything, `w` hands over exactly these pieces, in this order, and ends
with this outcome. -/
def Yields (w : Writer Unit) (pieces : List String) (outcome : Except Failure Unit) : Prop :=
  ∀ before : Array String,
    StateT.run (ExceptT.run w) ⟨before, none⟩ = (outcome, ⟨before ++ pieces.toArray, none⟩)

/-! ## One writer after the other -/

theorem run_andThen (w next : Writer Unit) (sink : Sink) :
    StateT.run (ExceptT.run (do w; next)) sink
      = (match (StateT.run (ExceptT.run w) sink : Except Failure Unit × Sink) with
        | (.ok _, sink) => StateT.run (ExceptT.run next) sink
        | (.error failure, sink) => (.error failure, sink)) := by
  show (StateT.run (ExceptT.run (w >>= fun _ => next)) sink : Except Failure Unit × Sink) = _
  simp only [ExceptT.run_bind, StateT.run_bind]
  rcases (StateT.run (ExceptT.run w) sink : Except Failure Unit × Sink) with ⟨_ | _, _⟩ <;> rfl

theorem yields_pure : Yields (pure ()) [] (.ok ()) := by
  intro before
  show (Except.ok (), (⟨before, none⟩ : Sink)) = _
  simp

theorem yields_throw (failure : Failure) : Yields (throw failure) [] (.error failure) := by
  intro before
  show (Except.error failure, (⟨before, none⟩ : Sink)) = _
  simp

theorem yields_put (piece : String) : Yields (put piece) [piece] (.ok ()) := by
  intro before
  show (Except.ok (), (⟨before.push piece, none⟩ : Sink)) = _
  simp

theorem Yields.andThen {w next : Writer Unit} {pieces more : List String}
    {outcome : Except Failure Unit} (hw : Yields w pieces (.ok ()))
    (hnext : Yields next more outcome) :
    Yields (do w; next) (pieces ++ more) outcome := by
  intro before
  -- the second one starts on the sink that the first one left
  rw [run_andThen, hw before]
  show StateT.run (ExceptT.run next) ⟨before ++ pieces.toArray, none⟩ = _
  rw [hnext]
  simp [Array.append_assoc]

/-- After a writer that fails comes nothing. -/
theorem Yields.halt {w : Writer Unit} {pieces : List String} {failure : Failure}
    (hw : Yields w pieces (.error failure)) (next : Writer Unit) :
    Yields (do w; next) pieces (.error failure) := by
  intro before
  rw [run_andThen, hw before]

theorem yields_putAll (pieces : List String) : Yields (putAll pieces) pieces (.ok ()) := by
  induction pieces with
  | nil => exact yields_pure
  | cons piece rest ih => exact (yields_put piece).andThen ih

/-! ## The joined text -/

theorem Yields.text_eq_ok {w : Writer Unit} {pieces : List String}
    (hw : Yields w pieces (.ok ())) : w.text = .ok (String.join pieces) := by
  have hrun : w.run none = (.ok (), ⟨pieces.toArray, none⟩) := by
    simpa [run] using hw #[]
  simp only [text, hrun, Sink.text]

/-- A writer that fails has no text, whatever it handed over before. -/
theorem Yields.text_eq_error {w : Writer Unit} {pieces : List String} {failure : Failure}
    (hw : Yields w pieces (.error failure)) : w.text = .error failure := by
  have hrun : w.run none = (.error failure, ⟨pieces.toArray, none⟩) := by
    simpa [run] using hw #[]
  simp only [text, hrun]

/-! ## What can go wrong -/

/-- On a sink that takes everything, `w` comes to an end, and where it fails, `P` holds of the
failure. -/
def FailsOnly (w : Writer Unit) (P : Failure → Prop) : Prop :=
  ∃ pieces outcome, Yields w pieces outcome ∧ ∀ failure, outcome = .error failure → P failure

variable {P : Failure → Prop}

theorem Yields.failsOnly {w : Writer Unit} {pieces : List String} (hw : Yields w pieces (.ok ())) :
    FailsOnly w P :=
  ⟨pieces, _, hw, nofun⟩

theorem failsOnly_throw {failure : Failure} (h : P failure) : FailsOnly (throw failure) P := by
  refine ⟨[], _, yields_throw failure, ?_⟩
  rintro _ ⟨⟩
  exact h

theorem FailsOnly.andThen {w next : Writer Unit} (hw : FailsOnly w P) (hnext : FailsOnly next P) :
    FailsOnly (do w; next) P := by
  obtain ⟨pieces, outcome, hyields, hfails⟩ := hw
  cases outcome with
  | error failure => exact ⟨pieces, _, hyields.halt next, hfails⟩
  | ok _ =>
    obtain ⟨more, last, hmore, hlast⟩ := hnext
    exact ⟨_, last, hyields.andThen hmore, hlast⟩

theorem FailsOnly.of_text_eq_error {w : Writer Unit} (hw : FailsOnly w P) {failure : Failure}
    (h : w.text = .error failure) : P failure := by
  obtain ⟨pieces, outcome, hyields, hfails⟩ := hw
  cases outcome with
  | ok _ =>
    rw [hyields.text_eq_ok] at h
    cases h
  | error other =>
    rw [hyields.text_eq_error] at h
    cases h
    exact hfails _ rfl

/-! ## What is put together -/

/-- `Q` holds of every writer that is put together from pieces and from failures that `P` admits. -/
structure Composes (Q : Writer Unit → Prop) (P : Failure → Prop) : Prop where
  nothing : Q (pure ())
  piece : ∀ piece, Q (put piece)
  failure : ∀ failure, P failure → Q (throw failure)
  andThen : ∀ w next : Writer Unit, Q w → Q next → Q (do w; next)

theorem composes_failsOnly (P : Failure → Prop) : Composes (FailsOnly · P) P where
  nothing := yields_pure.failsOnly
  piece piece := (yields_put piece).failsOnly
  failure _ := failsOnly_throw
  andThen _ _ hw hnext := hw.andThen hnext

namespace Composes

variable {Q : Writer Unit → Prop} (hQ : Composes Q P)
include hQ

theorem putAll (pieces : List String) : Q (putAll pieces) := by
  induction pieces with
  | nil => exact hQ.nothing
  | cons piece rest ih => exact hQ.andThen _ _ (hQ.piece piece) ih

/-- A result that is needed for what is written next. -/
theorem ofExcept_bind {α : Type} {result : Except Failure α} {next : α → Writer Unit}
    (hresult : ∀ failure, result = .error failure → P failure)
    (hnext : ∀ a, Q (next a)) : Q (do let a ← ofExcept result; next a) := by
  cases result with
  | ok a =>
    have hpure : (do let a ← ofExcept (.ok a); next a : Writer Unit) = next a := by
      simp only [ofExcept, pure_bind]
    rw [hpure]
    exact hnext a
  | error failure => exact hQ.failure failure (hresult failure rfl)

end Composes

end SqlText.Writer
