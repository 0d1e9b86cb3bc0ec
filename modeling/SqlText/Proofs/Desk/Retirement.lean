import SqlText.Proofs.Desk.Atomicity
import SqlText.Proofs.Desk.Ledger

/-!
Builders that are built. The query is handed out once, and what is left is out of use for good. The
builder itself refuses before it looks at what it is given. The sessions do not ask the builder, for
one that was opened directly never borrowed it; but whatever text they make, the buffer takes no
more of it. So no item is added any more, and from then on every session has the separator pending,
or not, as it had when the query was handed out.

* `isItemOf_eq_false_of_query_eq_none`: no item is added to a query that is handed out;
* `Reachable.separates_after_eq`: what is pending stays so, over any run;
* `Reachable.retires`: all of this, from the moment that the query is handed out.
-/

namespace SqlText

/-- The commands of a session that add to the query. -/
inductive SessionCommand.IsAppend : SessionCommand → Prop
  | push (item : Item) : IsAppend (.push item)
  | pushUnseparated (v : Value) : IsAppend (.pushUnseparated v)

namespace Desk

open Event

/-! ## What stays pending -/

theorem Turn.isItemOf_eq_false {desk next : Desk} {command : Command}
    {outcome : Except Failure Reply} (hturn : Turn desk command outcome next)
    (hnone : desk.builder.query = none) (id : Nat) :
    isItemOf id ⟨desk, command, outcome⟩ = false := by
  cases hturn with
  | itemPushed item hsession hactive haddition hquery =>
    rw [hnone] at hquery
    cases hquery
  | _ => rfl

/-- **No item is added to a query that is handed out**, whatever is commanded. -/
theorem isItemOf_eq_false_of_query_eq_none {desk : Desk} (hnone : desk.builder.query = none)
    (commands : List Command) (id : Nat) : (desk.events commands).any (isItemOf id) = false := by
  induction commands generalizing desk with
  | nil => rfl
  | cons command rest ih =>
    have hturn := step_turn desk command
    rw [events, List.any_cons, hturn.isItemOf_eq_false hnone id, Bool.false_or]
    exact ih (hturn.query_eq_none hnone)

theorem Records.after {history : List Event} {desk : Desk} (h : Records history desk)
    (hcoherent : Coherent desk) (commands : List Command) :
    Records (history ++ desk.events commands) (desk.after commands) := by
  induction commands generalizing history desk with
  | nil => simpa [events, Desk.after] using h
  | cons command rest ih =>
    have hturn := step_turn desk command
    rw [events, after_cons, List.append_cons]
    exact ih (h.turn hcoherent hturn) (hcoherent.turn hturn)

theorem Reachable.exists_records {desk : Desk} (h : Reachable desk) :
    ∃ history, Records history desk := by
  induction h with
  | new hnew => exact ⟨[], records_new hnew⟩
  | step hdesk command ih =>
    obtain ⟨history, hrecords⟩ := ih
    exact ⟨_, hrecords.turn hdesk.coherent (step_turn _ command)⟩

/-- **What is pending once the query is handed out stays so.** The history shows it, and nothing
more comes to the history that would matter. -/
theorem Reachable.separates_after_eq {desk : Desk} (h : Reachable desk)
    (hnone : desk.builder.query = none) (commands : List Command) {id : Nat} {s t : Session}
    (hs : desk.session? id = some s) (ht : (desk.after commands).session? id = some t) :
    t.separates = s.separates := by
  obtain ⟨history, hrecords⟩ := h.exists_records
  have hlater := hrecords.after h.coherent commands
  calc t.separates
      = (history ++ desk.events commands).any (isItemOf id) := (hlater.separates id t ht).symm
    _ = history.any (isItemOf id) := by
      rw [List.any_append, isItemOf_eq_false_of_query_eq_none hnone, Bool.or_false]
    _ = s.separates := hrecords.separates id s hs

/-! ## What is refused -/

/-- An append through a session fails: the session is finished, or there is no text, or the buffer
does not take the text. -/
theorem exists_error_of_isAppend {desk : Desk} (hnone : desk.builder.query = none) {id : Nat}
    {s : Session} (hs : desk.session? id = some s) {command : SessionCommand}
    (happend : command.IsAppend) :
    ∃ failure, (desk.step (.session id command)).1 = .error failure := by
  have hturn := step_turn desk (.session id command)
  generalize desk.step (.session id command) = result at hturn
  obtain ⟨outcome, next⟩ := result
  cases hturn with
  | refused | unwritten | closed => exact ⟨_, rfl⟩
  | absent _ hsession =>
    rw [hs] at hsession
    cases hsession
  | itemPushed _ _ _ _ hquery | unseparatedPushed _ _ _ _ hquery =>
    rw [hnone] at hquery
    cases hquery
  | entered | leftAgain | finished | left => cases happend

/-- The desk of a builder that is out of use. -/
structure Retired (desk : Desk) : Prop where
  built : desk.builder.isBuilt = true
  unborrowed : desk.isBorrowed = false
  empty : desk.builder.text = ""
  /-- Every use of the builder comes to the same, whatever it is given. -/
  refused : ∃ failure : Failure, failure.kind = .builderFinalized
    ∧ ∀ command : BuilderCommand,
      desk.step (.builder command) = (.error failure, desk.noticed .usedAfterBuild)
  /-- No session can append, and one that tries changes nothing. -/
  unwritable : ∀ id s command, desk.session? id = some s → SessionCommand.IsAppend command →
    ∃ failure, (desk.step (.session id command)).1 = .error failure
      ∧ (desk.step (.session id command)).2.LooksLike desk
  /-- The separator of a session is pending, or not, for as long as the session is on the desk. -/
  pending : ∀ commands id s t, desk.session? id = some s →
    (desk.after commands).session? id = some t → t.separates = s.separates

theorem Reachable.retired {desk : Desk} (h : Reachable desk) (hnone : desk.builder.query = none) :
    Retired desk where
  built := by rw [Builder.isBuilt, hnone]; rfl
  unborrowed := by rw [isBorrowed, h.coherent.built hnone]; rfl
  empty := by rw [Builder.text, hnone]; rfl
  refused := ⟨.alreadyBuilt, rfl, fun command => (Turn.built command hnone).step_eq⟩
  unwritable id s command hs happend := by
    obtain ⟨failure, hfail⟩ := exists_error_of_isAppend hnone hs happend
    refine ⟨failure, hfail, h.looksLike_of_error hfail fun hlost => ?_⟩
    cases hlost.command
  pending commands _ _ _ hs ht := h.separates_after_eq hnone commands hs ht

/-- **A query is handed out once.** What is handed out is the query of the builder, and after that
the builder is out of use, whatever is commanded. -/
theorem Reachable.retires {desk : Desk} (h : Reachable desk) {reply : Reply}
    (hbuild : (desk.step (.builder .build)).1 = .ok reply) :
    ∃ query, reply = .query query ∧ desk.builder.query = some query
      ∧ ∀ commands, Retired ((desk.step (.builder .build)).2.after commands) := by
  have hturn := step_turn desk (.builder .build)
  have hnext := h.step (.builder .build)
  rw [hbuild] at hturn
  generalize (desk.step (.builder .build)).2 = next at hturn hnext
  cases hturn with
  | @build query logged hquery hfree =>
    refine ⟨query, rfl, hquery, fun commands => (hnext.after commands).retired ?_⟩
    exact query_after_eq_none (query_handedOver ..) commands

/-- A session that was opened directly and has an item, and one that is opened once the query is
handed out. The first one goes on to have its separator pending, and the second one does not. -/
theorem retires_direct :
    let desk := (plain "IN ").after
      [.openDirect (.text ", "), .session 0 (.push (.raw (.text "1")))]
    let next := (desk.step (.builder .build)).2
    let later := next.after
      [.openDirect (.text " AND "), .session 1 (.push (.raw (.text "2")))]
    Reachable desk ∧ (desk.step (.builder .build)).1 = .ok (.query "IN 1")
      ∧ Retired next ∧ Retired later
      ∧ (next.session? 0).map (·.separates) = some true
      ∧ (later.session? 1).map (·.separates) = some false
      ∧ (later.step (.session 1 (.push (.raw (.text "2"))))).1 = .error .closed := by
  intro desk next later
  have hreachable : Reachable desk := (Reachable.new (new?_plain "IN ")).after _
  have hbuild : (desk.step (.builder .build)).1 = .ok (.query "IN 1") := rfl
  obtain ⟨_, _, _, hretired⟩ := hreachable.retires hbuild
  exact ⟨hreachable, hbuild, hretired [], hretired _, rfl, rfl, rfl⟩

end Desk

end SqlText
