import SqlText.Proofs.Desk.Borrow

/-!
Appends that fail to make their text. Nothing but a text that cannot be had stops an append that the
desk allows, and the failure says so: it is one of the library's own, and it has what went wrong
underneath as its cause, unless it was one of the library's own from the start. There is one gap. A
dialect may have the empty quote, and an identifier that is pushed then fails as the search for the
empty text does.

* `ChunkFails.isOwn_or`: the failures of a chunk are the library's own, but for that of the empty
  quote;
* `Allows.fails_of_turn`: an allowed append fails as its item or its separator does;
* `Reachable.surfacesFailures`: all of this, at every desk in use.
-/

namespace SqlText.Desk

/-- The appends that a desk allows, with the item that is appended: those of the free builder and
those of the live session. -/
inductive Allows (desk : Desk) : Command → Item → Prop
  | builder (item : Item) {query : String} (hquery : desk.builder.query = some query)
      (hfree : desk.holder? = none) : Allows desk (.builder (.push item)) item
  | session (item : Item) {id : Nat} (hlive : desk.IsLive id) :
      Allows desk (.session id (.push item)) item
  | unseparated (v : Value) {id : Nat} (hlive : desk.IsLive id) :
      Allows desk (.session id (.pushUnseparated v)) (.raw v)

/-- An append that is about to write the separator of a session. -/
inductive Separates (desk : Desk) : Command → Value → Prop
  | item (item : Item) {id : Nat} {s : Session} (hs : desk.session? id = some s)
      (hdue : s.separates = true) : Separates desk (.session id (.push item)) s.separator

/-- What goes wrong underneath an append: the item has no text, or no literal, or the separator that
is due has no text. -/
inductive Underlies (desk : Desk) (command : Command) : Item → Failure → Prop
  | raw {v : Value} {cause : Failure} (h : v.display? = .error cause) :
      Underlies desk command (.raw v) cause
  | identifier {v : Value} {cause : Failure} (h : v.display? = .error cause) :
      Underlies desk command (.identifier v) cause
  | literal {v : Value} {cause : Failure}
      (h : desk.registries.renderers.format? v = .error cause) :
      Underlies desk command (.literal v) cause
  | separator (item : Item) {v : Value} {cause : Failure} (hdue : desk.Separates command v)
      (h : v.display? = .error cause) : Underlies desk command item cause

/-! ## The failures of a chunk -/

/-- **What is reported of a chunk is the library's own**, unless the dialect has the empty quote. -/
theorem ChunkFails.isOwn_or {desk : Desk} {item : Item} {failure : Failure}
    (h : ChunkFails desk item failure) :
    failure.kind.isOwn = true
      ∨ desk.builder.dialect.identifierQuote = "" ∧ (∃ v, item = .identifier v)
        ∧ failure = .emptyQuote := by
  cases h with
  | raw | identifier | literal => exact .inl rfl
  | ownLiteral hfailure hown => exact .inl hown
  | emptyQuote hname hquote => exact .inr ⟨hquote, ⟨_, rfl⟩, rfl⟩

/-- A failure that was not handed on as it was has what went wrong underneath as its cause. -/
theorem ChunkFails.exists_cause {desk : Desk} {item : Item} {failure : Failure}
    (h : ChunkFails desk item failure) (command : Command)
    (hliteral : ∀ v, item = .literal v → desk.registries.renderers.format? v ≠ .error failure)
    (hquote : failure ≠ .emptyQuote) :
    failure.kind = .format
      ∧ ∃ cause, failure.cause? = some cause ∧ desk.Underlies command item cause := by
  cases h with
  | raw hcause => exact ⟨rfl, _, rfl, .raw hcause⟩
  | identifier hcause => exact ⟨rfl, _, rfl, .identifier hcause⟩
  | literal hcause hforeign => exact ⟨rfl, _, rfl, .literal hcause⟩
  | ownLiteral hfailure hown => exact absurd hfailure (hliteral _ rfl)
  | emptyQuote hname hempty => exact absurd rfl hquote

/-! ## The failures of an append -/

/-- The chunk of a value that is appended as it is does not depend on the desk. -/
theorem chunkFails_raw {desk : Desk} {v : Value} {failure : Failure}
    (h : rawChunk? v = .error failure) : ChunkFails desk (.raw v) failure := by
  have hchunk : desk.chunk? (.raw v) = .error failure := h
  exact chunkFails_of_chunk? hchunk

/-- **An allowed append fails as its item or its separator does.** It is not refused, and it does not
meet the buffer of a builder that is built. -/
theorem Allows.fails_of_turn {desk next : Desk} (hcoherent : Coherent desk) {command : Command}
    {item : Item} {failure : Failure} (hallows : desk.Allows command item)
    (hturn : Turn desk command (.error failure) next) :
    ChunkFails desk item failure
      ∨ ∃ separator, desk.Separates command separator
        ∧ ChunkFails desk (.raw separator) failure := by
  have hopen : ∀ {id : Nat}, desk.IsLive id → desk.builder.query ≠ none := by
    rintro id ⟨s, hs, hlive⟩ hquery
    exact hcoherent.not_isLive_of_free (hcoherent.built hquery) hs hlive
  have hunfinished : ∀ {id : Nat} {s : Session}, desk.IsLive id → desk.session? id = some s →
      s.isFinished = true → False := by
    rintro id s ⟨t, ht, hlive⟩ hs hfinished
    rw [hs] at ht
    cases ht
    rw [hlive.2] at hfinished
    cases hfinished
  cases hallows with
  | builder item hquery hfree =>
    cases hturn with
    | built _ hnone =>
      rw [hquery] at hnone
      cases hnone
    | held _ _ hholder =>
      rw [hfree] at hholder
      cases hholder
    | unpushed _ _ _ hchunk => exact .inl (chunkFails_of_chunk? hchunk)
  | session item hlive =>
    cases hturn with
    | refused hs hfinished _ => exact (hunfinished hlive hs hfinished).elim
    | closed _ _ _ hquery => exact (hopen hlive hquery).elim
    | unwritten hs _ hwritten =>
      obtain hchunk | ⟨hdue, hseparator⟩ := addition?_eq_error (Option.some.inj hwritten)
      · exact .inl (chunkFails_of_chunk? hchunk)
      · exact .inr ⟨_, .item item hs hdue, chunkFails_raw hseparator⟩
  | unseparated v hlive =>
    cases hturn with
    | refused hs hfinished _ => exact (hunfinished hlive hs hfinished).elim
    | closed _ _ _ hquery => exact (hopen hlive hquery).elim
    | unwritten _ _ hwritten => exact .inl (chunkFails_raw (Option.some.inj hwritten))

/-- An allowed append of an item without a chunk fails, and as the item does. -/
theorem Allows.step_of_chunkFails {desk : Desk} {command : Command} {item : Item}
    {failure : Failure} (hallows : desk.Allows command item)
    (hfails : ChunkFails desk item failure) : (desk.step command).1 = .error failure := by
  have hchunk := hfails.chunk?_eq
  cases hallows with
  | builder item hquery hfree => rw [(Turn.unpushed item hquery hfree hchunk).step_eq]
  | session item hlive =>
    obtain ⟨s, hs, hlive⟩ := hlive
    rw [(Turn.unwritten hs hlive.2 (written?_push_of_chunk? s hchunk)).step_eq]
  | unseparated v hlive =>
    obtain ⟨s, hs, hlive⟩ := hlive
    have hwritten : desk.written? s (.pushUnseparated v) = some (.error failure) :=
      congrArg some hchunk
    rw [(Turn.unwritten hs hlive.2 hwritten).step_eq]

/-- What the failure of an allowed append says. -/
structure SurfacesFailures (desk : Desk) : Prop where
  /-- It is one of the library's own, unless an identifier is pushed under the empty quote. -/
  own : ∀ command item failure, desk.Allows command item →
    (desk.step command).1 = .error failure →
      failure.kind.isOwn = true
        ∨ desk.builder.dialect.identifierQuote = "" ∧ (∃ v, item = .identifier v)
          ∧ failure = .emptyQuote
  /-- Unless it is the very failure of rendering a literal, or that of the empty quote, it speaks of
  formatting, and its cause is what went wrong with the item or with the separator. -/
  caused : ∀ command item failure, desk.Allows command item →
    (desk.step command).1 = .error failure →
    (∀ v, item = .literal v → desk.registries.renderers.format? v ≠ .error failure) →
    failure ≠ .emptyQuote →
      failure.kind = .format
        ∧ ∃ cause, failure.cause? = some cause ∧ desk.Underlies command item cause
  /-- Whatever goes wrong with the item does stop the append. -/
  stopped : ∀ command item failure, desk.Allows command item → ChunkFails desk item failure →
    (desk.step command).1 = .error failure

/-- **Failures surface at every desk in use.** -/
theorem Reachable.surfacesFailures {desk : Desk} (h : Reachable desk) : SurfacesFailures desk := by
  have hfails : ∀ command item failure, desk.Allows command item →
      (desk.step command).1 = .error failure →
        ChunkFails desk item failure
          ∨ ∃ separator, desk.Separates command separator
            ∧ ChunkFails desk (.raw separator) failure := by
    intro command item failure hallows hfail
    have hturn := step_turn desk command
    rw [hfail] at hturn
    exact hallows.fails_of_turn h.coherent hturn
  refine ⟨fun command item failure hallows hfail => ?_,
    fun command item failure hallows hfail hliteral hquote => ?_,
    fun command item failure hallows hfails => hallows.step_of_chunkFails hfails⟩
  · obtain hitem | ⟨separator, _, hseparator⟩ := hfails command item failure hallows hfail
    · exact hitem.isOwn_or
    · -- a separator is not quoted, so that the quote does not matter to it
      obtain hown | ⟨_, ⟨v, hidentifier⟩, _⟩ := hseparator.isOwn_or
      · exact .inl hown
      · cases hidentifier
  · obtain hitem | ⟨separator, hdue, hseparator⟩ := hfails command item failure hallows hfail
    · exact hitem.exists_cause command hliteral hquote
    · cases hseparator with
      | raw hcause => exact ⟨rfl, _, rfl, .separator item hdue hcause⟩

/-- A value of a user's type that cannot be appended to a query. -/
def mute : Value :=
  .object (.declared "styles" "Comma") [] none
    { displayed := .error (.raised .runtime "no text"), inspected := .ok "<comma>" }

/-- The first item of a session needs no separator. The second one does, and the failure to get it
has what the code of the separator reported as its cause. -/
theorem surfacesFailures_separator :
    let desk := (plain "IN (").after
      [.builder (.separated mute), .session 0 (.push (.literal (.int 1)))]
    let command : Command := .session 0 (.push (.literal (.int 2)))
    let failure : Failure := .unformattable .sql mute.type (.raised .runtime "no text")
    Reachable desk ∧ desk.Allows command (.literal (.int 2))
      ∧ (desk.step command).1 = .error failure ∧ failure.kind.isOwn = true
      ∧ ∃ cause, failure.cause? = some cause
        ∧ desk.Underlies command (.literal (.int 2)) cause := by
  intro desk command failure
  have hreachable : Reachable desk := (Reachable.new (new?_plain "IN (")).after _
  have hallows : desk.Allows command (.literal (.int 2)) := .session _ ⟨_, rfl, rfl, rfl⟩
  have hfail : (desk.step command).1 = .error failure := rfl
  have hliteral : ∀ v, Item.literal (.int 2) = .literal v →
      desk.registries.renderers.format? v ≠ .error failure := by
    rintro _ ⟨⟩ hformat
    have htext : desk.registries.renderers.format? (.int 2) = .ok "2" := rfl
    rw [htext] at hformat
    cases hformat
  have hsurfaces := hreachable.surfacesFailures
  obtain ⟨_, hcause⟩ := hsurfaces.caused _ _ _ hallows hfail hliteral nofun
  refine ⟨hreachable, hallows, hfail, ?_, hcause⟩
  obtain hown | ⟨hquote, _⟩ := hsurfaces.own _ _ _ hallows hfail
  · exact hown
  · exact absurd hquote (by decide)

/-- A dialect without a quote for identifiers. -/
def bare : Dialect := { name := "bare", identifierQuote := "" }

/-- An identifier that is pushed under it fails in a way that is not the library's own, with nothing
to say that it was being formatted. -/
theorem step_emptyQuote :
    ∃ desk, new? {} {} (.given bare) (.text "SELECT ") = .ok desk
      ∧ desk.Allows (.builder (.push (.identifier (.text "id")))) (.identifier (.text "id"))
      ∧ (desk.step (.builder (.push (.identifier (.text "id"))))).1 = .error .emptyQuote
      ∧ Failure.emptyQuote.kind.isOwn = false :=
  ⟨_, rfl, .builder _ rfl rfl, rfl, rfl⟩

end SqlText.Desk
