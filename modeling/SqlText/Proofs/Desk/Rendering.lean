import SqlText.Proofs.Catalog
import SqlText.Proofs.Quotation

/-!
A builder writes what the functions for single values return. A value that is pushed as a literal
adds the text that `Renderers.format?` gives for it, and an identifier the one that
`Dialects.quoteIdentifier?` gives for the text of the value; through a session, the separator stands
in front where it is owed. Where rendering fails, the append fails: in the same way if this failure
is one of the library's own, and else with this failure as its cause.

* `chunk?_identifier`: an identifier is what quoting returns, for whoever asks for the same dialect;
* `Appends.step_of_chunk?`, `Appends.step_of_chunk?_eq_error`: an append is as good as its chunk;
* `rendersAlike`: all of this, at every desk whose builder is not built.
-/

namespace SqlText

/-- The separator that has to be written in front of the next item. -/
def Session.owed? (s : Session) : Option Value := if s.separates then some s.separator else none

/-- The text of a separator that is owed; where none is, there is nothing to write. -/
def owedText? : Option Value → Except Failure String
  | none => .ok ""
  | some separator => separator.display?

/-- The item that a command pushes, if it pushes one. -/
def Command.item? : Command → Option Item
  | .builder (.push item) | .session _ (.push item) => some item
  | _ => none

namespace Desk

/-- The appends of items that are not refused: those of the free builder and those of any session
that is not finished, with the separator that is owed and the reply. -/
inductive Appends (desk : Desk) : Command → Item → Option Value → Reply → Prop
  | builder (item : Item) (hfree : desk.holder? = none) :
      Appends desk (.builder (.push item)) item none .builder
  | session (item : Item) {id : Nat} {s : Session} (hs : desk.session? id = some s)
      (hactive : s.isFinished = false) :
      Appends desk (.session id (.push item)) item s.owed? (.session id)

/-! ## One append -/

theorem front?_eq (s : Session) : front? s = owedText? s.owed? := by
  unfold front? Session.owed?
  cases s.separates <;> rfl

section Append

variable {desk : Desk} {query : String} {command : Command} {item : Item} {owed : Option Value}
  {reply : Reply}

/-- **An item that has a chunk is appended**, behind the separator that is owed. -/
theorem Appends.step_of_chunk? (h : desk.Appends command item owed reply)
    (hquery : desk.builder.query = some query) {front text : String}
    (hfront : owedText? owed = .ok front) (hchunk : desk.chunk? item = .ok text) :
    (desk.step command).1 = .ok reply
      ∧ (desk.step command).2.builder.query = some (query ++ (front ++ text)) := by
  cases h with
  | builder item hfree =>
    cases hfront
    rw [(Turn.pushed item hquery hfree hchunk).step_eq, String.empty_append]
    exact ⟨rfl, rfl⟩
  | @session _ id s hs hactive =>
    rw [← front?_eq] at hfront
    have haddition := addition?_eq_ok hfront hchunk
    rw [(Turn.itemPushed item hs hactive haddition hquery).step_eq]
    exact ⟨rfl, query_withItem ..⟩

/-- **An item without a chunk is not appended**, whether or not a separator is owed. -/
theorem Appends.step_of_chunk?_eq_error (h : desk.Appends command item owed reply)
    (hquery : desk.builder.query = some query) {failure : Failure}
    (hchunk : desk.chunk? item = .error failure) : (desk.step command).1 = .error failure := by
  cases h with
  | builder item hfree => rw [(Turn.unpushed item hquery hfree hchunk).step_eq]
  | @session _ id s hs hactive =>
    rw [(Turn.unwritten hs hactive (written?_push_of_chunk? s hchunk)).step_eq]

/-- An item that has a chunk can still fail, because the separator that is owed has no text. -/
theorem Appends.step_of_owedText?_eq_error {separator : Value}
    (h : desk.Appends command item (some separator) reply) {text : String} {cause : Failure}
    (hcause : separator.display? = .error cause) (hchunk : desk.chunk? item = .ok text) :
    (desk.step command).1 = .error (.unformattable .sql separator.type cause) := by
  generalize howed : some separator = owed at h
  cases h with
  | builder item hfree => cases howed
  | @session _ id s hs hactive =>
    unfold Session.owed? at howed
    split at howed
    · next hdue =>
      cases howed
      have hraw := (rawChunk?_eq_error_iff s.separator _).mpr ⟨cause, hcause, rfl⟩
      have hwritten : desk.written? s (.push item)
          = some (.error (.unformattable .sql s.separator.type cause)) := by
        rw [written?, addition?, hchunk]
        show some (if s.separates then _ else _ : Except Failure String) = _
        rw [if_pos hdue, hraw]
        rfl
      rw [(Turn.unwritten hs hactive hwritten).step_eq]
    · cases howed

/-- An item that was appended had a chunk, and so had the separator that was owed. -/
theorem exists_appends_of_ok (hitem : command.item? = some item)
    (hok : (desk.step command).1 = .ok reply) (hreply : reply ≠ .noSession) :
    ∃ owed query front text, desk.Appends command item owed reply
      ∧ desk.builder.query = some query ∧ owedText? owed = .ok front
      ∧ desk.chunk? item = .ok text := by
  have hturn := step_turn desk command
  rw [hok] at hturn
  generalize (desk.step command).2 = next at hturn
  cases hturn with
  | pushed _ hquery hfree hchunk =>
    cases hitem
    exact ⟨none, _, "", _, .builder item hfree, hquery, rfl, hchunk⟩
  | @itemPushed id s _ _ _ hsession hactive haddition hquery =>
    cases hitem
    obtain ⟨front, text, hfront, hchunk, -⟩ := exists_of_addition?_eq_ok haddition
    rw [front?_eq] at hfront
    exact ⟨s.owed?, _, front, text, .session item hsession hactive, hquery, hfront, hchunk⟩
  | absent => exact absurd rfl hreply
  | _ => cases hitem

end Append

/-! ## The dialect -/

/-- Ways to ask for the dialect of the builder: by itself, by a name that it is registered to, or by
the name that was given when the desk was new, in the catalog of then. -/
inductive AskedFor (desk : Desk) : Dialects → DialectChoice → Prop
  | given (ds : Dialects) : AskedFor desk ds (.given desk.builder.dialect)
  | registered {ds : Dialects} {name : String}
      (hname : ds.resolve? (.text name) = .ok desk.builder.dialect) : AskedFor desk ds (.named name)
  | opened {registries : Registries} {settings : Settings} {name : String} {init : Value}
      {start : Desk} (hnew : new? registries settings (.named name) init = .ok start)
      (commands : List Command) (hafter : start.after commands = desk) :
      AskedFor desk registries.dialects (.named name)

theorem AskedFor.resolve?_eq {desk : Desk} {ds : Dialects} {choice : DialectChoice}
    (h : desk.AskedFor ds choice) : choice.resolve? ds = .ok (some desk.builder.dialect) := by
  cases h with
  | given => rfl
  | registered hname =>
    rw [DialectChoice.resolve?, hname]
    rfl
  | opened hnew commands hafter =>
    rw [DialectChoice.resolve?, resolve?_of_new? hnew, ← hafter, dialect_after]
    rfl

/-- **An identifier is what quoting returns**, for whoever asks for the same dialect. -/
theorem chunk?_identifier {desk : Desk} {ds : Dialects} {choice : DialectChoice}
    (h : desk.AskedFor ds choice) {v : Value} {name : String} (hname : v.display? = .ok name) :
    desk.chunk? (.identifier v) = ds.quoteIdentifier? choice (.text name) := by
  rw [chunk?, identifierChunk?_of_display? hname, Dialects.quoteIdentifier?, h.resolve?_eq]
  rfl

/-! ## All of it -/

/-- What is appended to the query of a desk is what the functions for single values return. -/
structure RendersAlike (desk : Desk) (query : String) : Prop where
  /-- A literal that is formatted is appended. -/
  formatted : ∀ command v owed reply front text, desk.Appends command (.literal v) owed reply →
    owedText? owed = .ok front → desk.registries.renderers.format? v = .ok text →
      (desk.step command).1 = .ok reply
        ∧ (desk.step command).2.builder.query = some (query ++ (front ++ text))
  /-- Unless the separator that is owed has no text. -/
  unseparated : ∀ command v separator reply text cause,
    desk.Appends command (.literal v) (some separator) reply →
    separator.display? = .error cause → desk.registries.renderers.format? v = .ok text →
      (desk.step command).1 = .error (.unformattable .sql separator.type cause)
  /-- The library's own failures of formatting stay as they are. -/
  own : ∀ command v owed reply failure, desk.Appends command (.literal v) owed reply →
    desk.registries.renderers.format? v = .error failure → failure.kind.isOwn = true →
      (desk.step command).1 = .error failure
  /-- Any other one is the cause of a failure that says of which type the value is. -/
  foreign : ∀ command v owed reply cause, desk.Appends command (.literal v) owed reply →
    desk.registries.renderers.format? v = .error cause → cause.kind.isOwn = false →
      ∃ failure, (desk.step command).1 = .error failure ∧ failure.kind = .format
        ∧ failure.context = [("type", v.type.label)] ∧ failure.cause? = some cause
  /-- A name is quoted, and what is quoted is appended. -/
  quoted : ∀ command v owed reply front name ds choice,
    desk.Appends command (.identifier v) owed reply → owedText? owed = .ok front →
    v.display? = .ok name → desk.AskedFor ds choice →
    desk.builder.dialect.identifierQuote ≠ "" →
      ∃ text, ds.quoteIdentifier? choice (.text name) = .ok text
        ∧ (desk.step command).1 = .ok reply
        ∧ (desk.step command).2.builder.query = some (query ++ (front ++ text))

/-- **The builder and the functions for single values agree**, as long as the builder is not
built. -/
theorem rendersAlike {desk : Desk} {query : String} (hquery : desk.builder.query = some query) :
    RendersAlike desk query where
  formatted command v owed reply front text happends hfront hformat := by
    have hchunk : desk.chunk? (.literal v) = .ok text := by
      rw [chunk?, literalChunk?, hformat]
    exact happends.step_of_chunk? hquery hfront hchunk
  unseparated command v separator reply text cause happends hcause hformat := by
    have hchunk : desk.chunk? (.literal v) = .ok text := by
      rw [chunk?, literalChunk?, hformat]
    exact happends.step_of_owedText?_eq_error hcause hchunk
  own command v owed reply failure happends hformat hown :=
    happends.step_of_chunk?_eq_error hquery (ChunkFails.ownLiteral hformat hown).chunk?_eq
  foreign command v owed reply cause happends hformat hforeign :=
    ⟨.unformattable .literal v.type cause,
      happends.step_of_chunk?_eq_error hquery (ChunkFails.literal hformat hforeign).chunk?_eq,
      rfl, rfl, rfl⟩
  quoted command v owed reply front name ds choice happends hfront hname hasked hquote := by
    obtain ⟨text, htext⟩ : ∃ text, desk.chunk? (.identifier v) = .ok text := by
      rw [chunk?, identifierChunk?_of_display? hname]
      exact ⟨_, (Quoting.yields_escape_of_ne hquote name).text_eq_ok⟩
    refine ⟨text, ?_, happends.step_of_chunk? hquery hfront htext⟩
    rw [← chunk?_identifier hasked hname]
    exact htext

/-- The second item of a session. A name is quoted as quoting by the name of the dialect has it, and
a value in a list that is unsupported is reported as formatting the list reports it. -/
theorem rendersAlike_second :
    let desk := (plain "SELECT ").after
      [.builder (.separated (.text ", ")), .session 0 (.push (.raw (.text "1")))]
    let name : Value := .text "a\x60b"
    let items : Value := .list [.int 1, .bytes []]
    desk.builder.query = some "SELECT 1"
      ∧ (∃ text, Dialects.standard.quoteIdentifier? (.named "mysql") name = .ok text
        ∧ (desk.step (.session 0 (.push (.identifier name)))).2.builder.query
          = some ("SELECT 1" ++ (", " ++ text)))
      ∧ ∃ failure, ({} : Renderers).format? items = .error failure
        ∧ (desk.step (.session 0 (.push (.literal items)))).1 = .error failure := by
  intro desk name items
  have hquery : desk.builder.query = some "SELECT 1" := rfl
  have happends : ∀ item, desk.Appends (.session 0 (.push item)) item (some (.text ", "))
      (.session 0) := fun item =>
    .session (s := { opening := .borrowing, separator := .text ", ", separates := true }) item
      rfl rfl
  have hasked : desk.AskedFor .standard (.named "mysql") :=
    .registered (Dialects.resolve?_of_find? (by decide +kernel))
  have halike := rendersAlike hquery
  obtain ⟨text, htext, -, hwritten⟩ := halike.quoted _ name _ _ ", " _ _ _
    (happends _) rfl rfl hasked (by decide)
  exact ⟨hquery, ⟨text, htext, hwritten⟩, _, rfl, halike.own _ items _ _ _ (happends _) rfl rfl⟩

end Desk

end SqlText
