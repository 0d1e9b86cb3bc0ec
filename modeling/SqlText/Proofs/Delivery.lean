import SqlText.Dialect
import SqlText.Proofs.Literal.Failure

/-!
Sinks that fill up. What writes tokens and literals hands its pieces to the sink one by one, and
nothing on the way holds a piece back, hands it over twice or takes notice of a sink that is full.
So a sink with limited room ends up with the first pieces of the run into a sink without limit, as
many as there is room for; and only if one piece more was coming, the run ends with the failure of
the sink in place of its own outcome.

* `Delivers`: a writer hands over certain pieces, whatever the sink;
* `composes_delivers`: so does all that is put together from pieces and failures;
* `Counterpart.fillsInOrder`: tokens and literals, and the functions that return them as texts.
-/

namespace SqlText

namespace Sink

/-- What comes of offering pieces one after the other, where `outcome` is due after the last one. A
sink that is full ends the run. -/
def offer (outcome : Except Failure Unit) : Sink → List String → Except Failure Unit × Sink
  | sink, [] => (outcome, sink)
  | sink, piece :: rest =>
    match sink.accept? piece with
    | some next => next.offer outcome rest
    | none => (.error .sinkFull, sink)

variable (outcome : Except Failure Unit)

/-- More pieces are offered to the sink that the first ones left, unless it is full. -/
theorem offer_append (sink : Sink) (pieces more : List String) :
    sink.offer outcome (pieces ++ more)
      = match sink.offer (.ok ()) pieces with
        | (.ok _, next) => next.offer outcome more
        | (.error failure, next) => (.error failure, next) := by
  induction pieces generalizing sink with
  | nil => rfl
  | cons piece rest ih =>
    rw [List.cons_append, offer, offer]
    cases sink.accept? piece with
    | none => rfl
    | some next => exact ih next

/-- A run that ends with a failure never ends well, whether or not it comes to its end. -/
theorem exists_offer_eq_error (failure : Failure) (sink : Sink) (pieces : List String) :
    ∃ other next, sink.offer (.error failure) pieces = (.error other, next) := by
  induction pieces generalizing sink with
  | nil => exact ⟨failure, sink, rfl⟩
  | cons piece rest ih =>
    rw [offer]
    cases sink.accept? piece with
    | none => exact ⟨.sinkFull, sink, rfl⟩
    | some next => exact ih next

theorem offer_unlimited (before : Array String) (pieces : List String) :
    offer outcome ⟨before, none⟩ pieces = (outcome, ⟨before ++ pieces.toArray, none⟩) := by
  induction pieces generalizing before with
  | nil => simp [offer]
  | cons piece rest ih =>
    show offer outcome ⟨before.push piece, none⟩ rest = _
    rw [ih]
    simp

/-- All pieces fit, and the outcome is the one that was due. -/
theorem offer_of_le (before : Array String) {pieces : List String} {room : Nat}
    (h : pieces.length ≤ room) :
    offer outcome ⟨before, some room⟩ pieces
      = (outcome, ⟨before ++ pieces.toArray, some (room - pieces.length)⟩) := by
  induction pieces generalizing before room with
  | nil => simp [offer]
  | cons piece rest ih =>
    cases room with
    | zero => simp at h
    | succ room =>
      show offer outcome ⟨before.push piece, some room⟩ rest = _
      rw [ih _ (Nat.le_of_succ_le_succ h)]
      simp

/-- The pieces that fit are kept. What was due comes to nothing. -/
theorem offer_of_lt (before : Array String) {pieces : List String} {room : Nat}
    (h : room < pieces.length) :
    offer outcome ⟨before, some room⟩ pieces
      = (.error .sinkFull, ⟨before ++ (pieces.take room).toArray, some 0⟩) := by
  induction pieces generalizing before room with
  | nil => simp at h
  | cons piece rest ih =>
    cases room with
    | zero => simp [offer, accept?]
    | succ room =>
      show offer outcome ⟨before.push piece, some room⟩ rest = _
      rw [ih _ (Nat.lt_of_succ_lt_succ h)]
      simp

end Sink

namespace Writer

/-- Whatever the sink, `w` offers exactly these pieces to it, in this order, and then ends with this
outcome. -/
def Delivers (w : Writer Unit) (pieces : List String) (outcome : Except Failure Unit) : Prop :=
  ∀ sink : Sink, StateT.run (ExceptT.run w) sink = sink.offer outcome pieces

theorem delivers_put (piece : String) : Delivers (put piece) [piece] (.ok ()) := by
  intro sink
  have hput : StateT.run (ExceptT.run (put piece)) sink
      = match sink.accept? piece with
        | some next => (.ok (), next)
        | none => (.error .sinkFull, sink) := by
    rw [put]
    show StateT.run (ExceptT.run (match sink.accept? piece with
      | some sink => set sink
      | none => throw .sinkFull : Writer Unit)) sink = _
    cases sink.accept? piece <;> rfl
  rw [hput, Sink.offer]
  cases sink.accept? piece <;> rfl

theorem Delivers.andThen {w next : Writer Unit} {pieces more : List String}
    {outcome : Except Failure Unit} (hw : Delivers w pieces (.ok ()))
    (hnext : Delivers next more outcome) : Delivers (do w; next) (pieces ++ more) outcome := by
  intro sink
  rw [run_andThen, hw sink, Sink.offer_append]
  -- either the sink is full by now, or the second writer goes on with what the first one left
  rcases sink.offer (.ok ()) pieces with ⟨_ | _, left⟩
  · rfl
  · exact hnext left

/-- After a writer that fails comes nothing, whether it fails by itself or for want of room. -/
theorem Delivers.halt {w : Writer Unit} {pieces : List String} {failure : Failure}
    (hw : Delivers w pieces (.error failure)) (next : Writer Unit) :
    Delivers (do w; next) pieces (.error failure) := by
  intro sink
  obtain ⟨other, left, hoffer⟩ := Sink.exists_offer_eq_error failure sink pieces
  rw [run_andThen, hw sink, hoffer]

/-- **What is put together from pieces and failures delivers**, whatever the failures are. -/
theorem composes_delivers :
    Composes (fun w => ∃ pieces outcome, Delivers w pieces outcome) fun _ => True where
  nothing := ⟨[], .ok (), fun _ => rfl⟩
  piece piece := ⟨[piece], .ok (), delivers_put piece⟩
  failure failure _ := ⟨[], .error failure, fun _ => rfl⟩
  andThen w next := by
    rintro ⟨pieces, outcome, hw⟩ ⟨more, last, hnext⟩
    cases outcome with
    | error failure => exact ⟨pieces, _, hw.halt next⟩
    | ok _ => exact ⟨pieces ++ more, last, hw.andThen hnext⟩

theorem Delivers.yields {w : Writer Unit} {pieces : List String} {outcome : Except Failure Unit}
    (hw : Delivers w pieces outcome) : Yields w pieces outcome := fun before => by
  rw [hw, Sink.offer_unlimited]

/-- The runs of `w` into sinks of every room, given the run into a sink without limit. -/
structure FillsInOrder (w : Writer Unit) (pieces : List String)
    (outcome : Except Failure Unit) : Prop where
  /-- A sink without limit takes all pieces. -/
  unlimited : w.run none = (outcome, ⟨pieces.toArray, none⟩)
  /-- So does one that has room for them all, with the same outcome. -/
  roomy : ∀ room, pieces.length ≤ room →
    w.run (some room) = (outcome, ⟨pieces.toArray, some (room - pieces.length)⟩)
  /-- Any other one takes as many as fit, and its own failure is the outcome. -/
  full : ∀ room, room < pieces.length →
    w.run (some room) = (.error .sinkFull, ⟨(pieces.take room).toArray, some 0⟩)

theorem Delivers.fills {w : Writer Unit} {pieces : List String}
    {outcome : Except Failure Unit} (hw : Delivers w pieces outcome) :
    FillsInOrder w pieces outcome where
  unlimited := by rw [run, hw, Sink.offer_unlimited, Array.empty_append]
  roomy room h := by rw [run, hw, Sink.offer_of_le _ _ h, Array.empty_append]
  full room h := by rw [run, hw, Sink.offer_of_lt _ _ h, Array.empty_append]

/-! ## The run into a sink without limit

What a writer offers to one sink it offers to all, so that the run into a sink without limit tells
the runs into all others. -/

/-- What a writer hands over to a sink that takes everything. -/
def pieces (w : Writer Unit) : List String := (w.run none).2.pieces.toList

/-- How a writer ends on a sink that takes everything. -/
def outcome (w : Writer Unit) : Except Failure Unit := (w.run none).1

/-- The sink has no say in what the writer offers to it. -/
def IsSteady (w : Writer Unit) : Prop := ∃ pieces outcome, Delivers w pieces outcome

section Steady

variable {w next other : Writer Unit}

theorem Delivers.pieces_eq {pieces : List String} {outcome : Except Failure Unit}
    (hw : Delivers w pieces outcome) : w.pieces = pieces := by
  rw [Writer.pieces, hw.fills.unlimited]

theorem Yields.outcome_eq {pieces : List String} {outcome : Except Failure Unit}
    (hw : Yields w pieces outcome) : w.outcome = outcome := by
  rw [Writer.outcome]
  exact congrArg (·.1) (hw #[])

theorem Delivers.outcome_eq {pieces : List String} {outcome : Except Failure Unit}
    (hw : Delivers w pieces outcome) : w.outcome = outcome :=
  hw.yields.outcome_eq

/-- The text of a writer is that of its pieces, if the writer ends well. -/
theorem text_eq (w : Writer Unit) : w.text = w.outcome.map fun _ => String.join w.pieces := by
  rw [text, Writer.outcome, Writer.pieces]
  rcases w.run none with ⟨_ | _, _⟩ <;> rfl

theorem IsSteady.delivers (hw : w.IsSteady) : Delivers w w.pieces w.outcome := by
  obtain ⟨pieces, outcome, hdelivers⟩ := hw
  rwa [hdelivers.pieces_eq, hdelivers.outcome_eq]

theorem isSteady_put (piece : String) : (put piece).IsSteady := ⟨_, _, delivers_put piece⟩

theorem Delivers.unique {pieces : List String} {outcome : Except Failure Unit}
    (hw : Delivers w pieces outcome) (hother : Delivers other pieces outcome) : w = other :=
  funext fun sink => (hw sink).trans (hother sink).symm

/-- **What comes after a writer matters only if the writer ends well.** -/
theorem IsSteady.andThen_congr (hw : w.IsSteady) (h : w.outcome = .ok () → next = other) :
    (do w; next) = (do w; other) := by
  have hdelivers := hw.delivers
  cases houtcome : w.outcome with
  | ok _ => rw [h houtcome]
  | error failure =>
    rw [houtcome] at hdelivers
    exact (hdelivers.halt next).unique (hdelivers.halt other)

theorem IsSteady.outcome_andThen (hw : w.IsSteady) (hnext : next.IsSteady)
    (hok : w.outcome = .ok ()) : (do w; next).outcome = next.outcome := by
  have hdelivers := hw.delivers
  rw [hok] at hdelivers
  exact (hdelivers.andThen hnext.delivers).outcome_eq

theorem IsSteady.outcome_halt (hw : w.IsSteady) {failure : Failure}
    (hfail : w.outcome = .error failure) : (do w; next).outcome = .error failure := by
  have hdelivers := hw.delivers
  rw [hfail] at hdelivers
  exact (hdelivers.halt next).outcome_eq

end Steady

/-! ### One after the other -/

/-- Each writer after the one before. -/
def inOrder : List (Writer Unit) → Writer Unit
  | [] => pure ()
  | w :: rest => do
    w
    inOrder rest

theorem inOrder_append (ws others : List (Writer Unit)) :
    inOrder (ws ++ others) = (do inOrder ws; inOrder others) := by
  induction ws with
  | nil => simp [inOrder]
  | cons w rest ih =>
    rw [List.cons_append, inOrder, inOrder, ih]
    exact (bind_assoc ..).symm

/-- If all writers end well, the pieces of all are written. -/
theorem delivers_inOrder {ws : List (Writer Unit)}
    (h : ∀ w ∈ ws, w.IsSteady ∧ w.outcome = .ok ()) :
    Delivers (inOrder ws) (ws.flatMap pieces) (.ok ()) := by
  induction ws with
  | nil => exact fun _ => rfl
  | cons w rest ih =>
    obtain ⟨hsteady, houtcome⟩ := h w List.mem_cons_self
    have hfirst := hsteady.delivers
    rw [houtcome] at hfirst
    exact hfirst.andThen (ih fun other hother => h other (List.mem_cons_of_mem w hother))

/-- The first writer that fails is the last one that writes anything. -/
theorem delivers_inOrder_cut {front rest : List (Writer Unit)} {w : Writer Unit}
    {failure : Failure} (hfront : ∀ x ∈ front, x.IsSteady ∧ x.outcome = .ok ()) (hw : w.IsSteady)
    (hfail : w.outcome = .error failure) :
    Delivers (inOrder (front ++ w :: rest)) (front.flatMap pieces ++ w.pieces)
      (.error failure) := by
  have hcut := hw.delivers
  rw [hfail] at hcut
  rw [inOrder_append]
  exact (delivers_inOrder hfront).andThen (hcut.halt (inOrder rest))

end Writer

/-! ## Tokens and literals -/

open Writer

theorem Quoting.exists_delivers_escape (src quote : String) :
    ∃ pieces outcome, Delivers (escape src quote) pieces outcome := by
  rw [escape]
  split
  · exact composes_delivers.andThen _ _ (composes_delivers.piece quote)
      (composes_delivers.failure _ trivial)
  · exact composes_delivers.putAll _

/-- Whatever is to be quoted, the opening quote comes first. -/
theorem Value.exists_delivers_escape (src : Value) (quote : String) :
    ∃ pieces outcome, Delivers (src.escape quote) pieces outcome := by
  obtain ⟨s, hs⟩ | ⟨failure, hfailure⟩ := src.escape_cases quote
  · rw [hs]
    exact Quoting.exists_delivers_escape s quote
  · rw [hfailure]
    exact composes_delivers.andThen _ _ (composes_delivers.piece quote)
      (composes_delivers.failure failure trivial)

theorem Renderers.exists_delivers_writeWith (rs : Renderers) (depth : Nat) (v : Value) :
    ∃ pieces outcome, Delivers (rs.writeWith (rs.run depth) v) pieces outcome :=
  (runsWithin_run composes_delivers (fun _ _ => trivial) (fun _ _ => trivial) depth).writeWith
    fun _ _ => trivial

/-- All that writes tokens and literals, with the function that returns the same as a text. -/
inductive Counterpart : Writer Unit → Except Failure String → Prop
  | token (src : Value) (quote : String) : Counterpart (src.escape quote) (src.quote? quote)
  | string (src : Value) : Counterpart (src.escape Quoting.literalQuote) src.quoteString?
  /-- An identifier has the quote of the dialect asked for, or the one that is used where none is
  asked for. -/
  | identifier {ds : Dialects} {choice : DialectChoice} {chosen : Option Dialect}
      (hchosen : choice.resolve? ds = .ok chosen) (src : Value) :
      Counterpart
        (src.escape ((chosen.map (·.identifierQuote)).getD Quoting.identifierQuote))
        (ds.quoteIdentifier? choice src)
  | literal (rs : Renderers) (v : Value) : Counterpart (rs.write v) (rs.format? v)
  /-- A literal, where renderers may call one another as often in a row as is said. -/
  | nested (rs : Renderers) (depth : Nat) (v : Value) :
      Counterpart (rs.writeWith (rs.run depth) v) (rs.writeWith (rs.run depth) v).text

theorem Counterpart.exists_delivers {w : Writer Unit} {text? : Except Failure String}
    (h : Counterpart w text?) : ∃ pieces outcome, Delivers w pieces outcome := by
  cases h with
  | token src quote => exact src.exists_delivers_escape quote
  | string src => exact src.exists_delivers_escape _
  | identifier _ src => exact src.exists_delivers_escape _
  | literal rs v => exact rs.exists_delivers_writeWith _ v
  | nested rs depth v => exact rs.exists_delivers_writeWith depth v

/-- The text that is returned is the one that is written. -/
theorem Counterpart.text_eq {w : Writer Unit} {text? : Except Failure String}
    (h : Counterpart w text?) : w.text = text? := by
  cases h with
  | identifier hchosen src =>
    rw [Dialects.quoteIdentifier?, hchosen]
    rfl
  | _ => rfl

/-- **A sink that fills up holds the first pieces.** Take anything that writes a token or a literal,
with any renderers and for any value, and the pieces and the outcome of its run into a sink without
limit. Into a sink with room for as many pieces, it runs just so; a sink with less room ends up with
the pieces that fit, and the outcome is the failure of the sink. And the pieces joined are the text
that the function for texts returns, unless the run fails, and then that function fails in the same
way. -/
theorem Counterpart.fillsInOrder {w : Writer Unit} {text? : Except Failure String}
    (h : Counterpart w text?) :
    ∃ pieces outcome, w.FillsInOrder pieces outcome
      ∧ text? = outcome.map fun _ => String.join pieces := by
  obtain ⟨pieces, outcome, hw⟩ := h.exists_delivers
  refine ⟨pieces, outcome, hw.fills, ?_⟩
  rw [← h.text_eq]
  cases outcome with
  | ok _ => exact hw.yields.text_eq_ok
  | error failure => exact hw.yields.text_eq_error

/-- A type with a renderer that gives up halfway. -/
def Renderers.halfway : Renderers :=
  ({} : Renderers).register (.declared "paint" "Color") [.put "c(", .fail .runtime "no color"]

/-- A list whose second item has that type. -/
def Value.colored : Value :=
  .list [.int 1, .object (.declared "paint" "Color") [] none
    { displayed := .ok "red", inspected := .ok "red" }, .int 2]

/-- The sink is full when the renderer gives up, and then it is full one piece earlier. -/
theorem Counterpart.fillsInOrder_halfway :
    (Renderers.halfway.write .colored).run (some 4)
        = (.error (.raised .runtime "no color"), ⟨#["[", "1", ", ", "c("], some 0⟩)
      ∧ (Renderers.halfway.write .colored).run (some 3)
        = (.error .sinkFull, ⟨#["[", "1", ", "], some 0⟩) := by
  obtain ⟨pieces, outcome, hfills, -⟩ :=
    (Counterpart.literal Renderers.halfway .colored).fillsInOrder
  have hrun : (Renderers.halfway.write .colored).run none
      = (.error (.raised .runtime "no color"), ⟨#["[", "1", ", ", "c("], none⟩) := rfl
  rw [hfills.unlimited] at hrun
  obtain ⟨houtcome, hsink⟩ := Prod.mk.inj hrun
  have hpieces : pieces = ["[", "1", ", ", "c("] :=
    congrArg (fun sink : Sink => sink.pieces.toList) hsink
  subst houtcome hpieces
  exact ⟨hfills.roomy 4 (by decide), hfills.full 3 (by decide)⟩

end SqlText
