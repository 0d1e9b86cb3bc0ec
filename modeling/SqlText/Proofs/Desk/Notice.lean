import SqlText.Desk.Question
import SqlText.Proofs.Desk.Constancy

/-!
What is noticed. A move is a command or a question, and it calls for a notice in four cases: a
builder that is built is used, or one that a live session holds, or a finished session, or a query is
handed out while the settings ask for the log. The desk before the move decides which case it is, if
any. So the notices of a run can be told from the desks that it leads through, move by move (`Logs`).

* `Coherent.calls_unique`: no move calls for two notices;
* `Turn.notes`, `Coherent.play_notes`: what one move adds to the notices;
* `Coherent.logs`: what a run adds to them;
* `logsExactly`: all of this, for every run from a new desk.
-/

namespace SqlText

inductive Move
  | command (command : Command)
  | question (question : Question)

/-- The commands among moves, in order. -/
def Move.commands (moves : List Move) : List Command :=
  moves.filterMap fun
    | .command c => some c
    | .question _ => none

namespace Desk

/-! ## Questions -/

/-- **A question changes nothing** but a borrower that is no longer on the desk, and it is always
answered. -/
theorem ask_eq (desk : Desk) (question : Question) :
    ∃ answer next, desk.ask question = (.ok answer, next) ∧ (next = desk ∨ next = desk.settled) := by
  have hasked : desk.ask question = (runQuestion question).on desk := rfl
  cases question with
  | text | inspected | dialect | isBuilt => exact ⟨_, _, rfl, .inl rfl⟩
  | isBorrowed =>
    rw [hasked, runQuestion, Action.on_bind, holder_on]
    exact ⟨_, _, rfl, .inr rfl⟩
  | isFinished id =>
    rw [hasked, runQuestion, Action.on_bind, Action.on_get]
    dsimp only
    cases desk.session? id with
    | none => exact ⟨_, _, rfl, .inl rfl⟩
    | some s => exact ⟨_, _, rfl, .inl rfl⟩

theorem ask_snd (desk : Desk) (question : Question) :
    (desk.ask question).2 = desk ∨ (desk.ask question).2 = desk.settled := by
  obtain ⟨answer, next, hask, hnext⟩ := desk.ask_eq question
  rw [hask]
  exact hnext

theorem notices_ask (desk : Desk) (question : Question) :
    (desk.ask question).2.notices = desk.notices := by
  rcases desk.ask_snd question with h | h <;> rw [h]
  exact notices_settled desk

theorem settings_ask (desk : Desk) (question : Question) :
    (desk.ask question).2.settings = desk.settings := by
  obtain ⟨borrower, hsettled⟩ := exists_settled desk
  rcases desk.ask_snd question with h | h <;> rw [h]
  rw [hsettled]

theorem Coherent.ask {desk : Desk} (h : Coherent desk) (question : Question) :
    Coherent (desk.ask question).2 := by
  rcases desk.ask_snd question with hask | hask <;> rw [hask]
  · exact h
  · exact h.settled

/-- Nobody can tell by looking whether a question was asked. -/
theorem Coherent.looksLike_ask {desk : Desk} (h : Coherent desk) (question : Question) :
    (desk.ask question).2.LooksLike desk := by
  have hagree : Agree (fun _ => False) desk (desk.ask question).2 := by
    obtain ⟨borrower, hsettled⟩ := exists_settled desk
    rcases desk.ask_snd question with hask | hask <;> rw [hask]
    · exact Agree.refl desk
    · rw [hsettled]
      exact (Agree.refl desk).withBorrower desk.builder.borrower borrower
  exact hagree.looksLike h (h.ask question)

/-! ## Moves -/

/-- The desk after a move. -/
def play (desk : Desk) : Move → Desk
  | .command command => (desk.step command).2
  | .question question => (desk.ask question).2

/-- The desk after moves, in order. -/
def played (desk : Desk) (moves : List Move) : Desk := moves.foldl play desk

theorem played_cons (desk : Desk) (move : Move) (rest : List Move) :
    desk.played (move :: rest) = (desk.play move).played rest := rfl

theorem Coherent.play {desk : Desk} (h : Coherent desk) (move : Move) :
    Coherent (desk.play move) := by
  cases move with
  | command command => exact h.turn (step_turn desk command)
  | question question => exact h.ask question

theorem Coherent.played {desk : Desk} (h : Coherent desk) (moves : List Move) :
    Coherent (desk.played moves) := by
  induction moves generalizing desk with
  | nil => exact h
  | cons move rest ih => exact ih (h.play move)

/-- The settings are those at the start, with what was assigned since. -/
theorem settings_played (desk : Desk) (moves : List Move) :
    (desk.played moves).settings = desk.settings.assignAll (assignments (Move.commands moves)) := by
  induction moves generalizing desk with
  | nil => rfl
  | cons move rest ih =>
    rw [played_cons, ih]
    cases move with
    | command command =>
      show (desk.step command).2.settings.assignAll _ = desk.settings.assignAll _
      rw [(step_turn desk command).lookedUp_eq.2]
      cases command <;> rfl
    | question question =>
      show (desk.ask question).2.settings.assignAll _ = _
      rw [settings_ask]
      rfl

/-! ## What a move calls for -/

/-- The notice that a move calls for, by the desk before it. -/
inductive Calls (desk : Desk) : Move → Notice → Prop
  | usedAfterBuild (command : BuilderCommand) (hbuilt : desk.builder.isBuilt = true) :
      Calls desk (.command (.builder command)) .usedAfterBuild
  | usedWhileBorrowed (command : BuilderCommand) {id : Nat} (hlive : desk.IsLive id) :
      Calls desk (.command (.builder command)) .usedWhileBorrowed
  | usedAfterFinish {id : Nat} {s : Session} {command : SessionCommand}
      (hsession : desk.session? id = some s) (hfinished : s.isFinished = true)
      (hcommand : command.isRefused = true) :
      Calls desk (.command (.session id command)) .usedAfterFinish
  | built {query : String} (hquery : desk.builder.query = some query)
      (hfree : ∀ id, ¬desk.IsLive id) (hlog : desk.settings.logQueries.truth? = .ok true) :
      Calls desk (.command (.builder .build)) (.built desk.builder.dialect.name query)

theorem query_eq_none_of_isBuilt {desk : Desk} (h : desk.builder.isBuilt = true) :
    desk.builder.query = none := Option.isNone_iff_eq_none.mp h

theorem Coherent.not_isLive_of_built {desk : Desk} (h : Coherent desk)
    (hbuilt : desk.builder.isBuilt = true) (id : Nat) : ¬desk.IsLive id := by
  rintro ⟨s, hs, hlive⟩
  exact h.not_isLive_of_free (h.built (query_eq_none_of_isBuilt hbuilt)) hs hlive

/-- **No move calls for two notices.** A builder that is built is held by no session, and what is
handed out is the query of a builder that is neither. -/
theorem Coherent.calls_unique {desk : Desk} (h : Coherent desk) {move : Move} {n other : Notice}
    (hn : Calls desk move n) (hother : Calls desk move other) : n = other := by
  cases hn with
  | usedAfterBuild command hbuilt =>
    cases hother with
    | usedAfterBuild => rfl
    | usedWhileBorrowed _ hlive => exact absurd hlive (h.not_isLive_of_built hbuilt _)
    | built hquery =>
      rw [query_eq_none_of_isBuilt hbuilt] at hquery
      cases hquery
  | usedWhileBorrowed command hlive =>
    cases hother with
    | usedAfterBuild _ hbuilt => exact absurd hlive (h.not_isLive_of_built hbuilt _)
    | usedWhileBorrowed => rfl
    | built _ hfree => exact absurd hlive (hfree _)
  | usedAfterFinish =>
    cases hother
    rfl
  | built hquery hfree =>
    cases hother with
    | usedAfterBuild _ hbuilt =>
      rw [query_eq_none_of_isBuilt hbuilt] at hquery
      cases hquery
    | usedWhileBorrowed _ hlive => exact absurd hlive (hfree _)
    | built hsame =>
      rw [hquery] at hsame
      cases hsame
      rfl

/-- The notices that a move adds: the one that it calls for, or none if it calls for none. -/
inductive Notes (desk : Desk) (move : Move) : List Notice → Prop
  | called {n : Notice} (h : Calls desk move n) : Notes desk move [n]
  | silent (h : ∀ n, ¬Calls desk move n) : Notes desk move []

theorem not_calls_of_free {desk : Desk} {query : String} (hquery : desk.builder.query = some query)
    (hfree : ∀ id, ¬desk.IsLive id) {command : BuilderCommand}
    (hcommand : command = .build → desk.settings.logQueries.truth? ≠ .ok true) (n : Notice) :
    ¬Calls desk (.command (.builder command)) n := by
  intro hcalls
  cases hcalls with
  | usedAfterBuild _ hbuilt =>
    rw [query_eq_none_of_isBuilt hbuilt] at hquery
    cases hquery
  | usedWhileBorrowed _ hlive => exact hfree _ hlive
  | built _ _ hlog => exact hcommand rfl hlog

theorem not_calls_of_session {desk : Desk} {id : Nat} {command : SessionCommand}
    (h : ∀ s, desk.session? id = some s → s.isFinished = true → command.isRefused = false)
    (n : Notice) : ¬Calls desk (.command (.session id command)) n := by
  intro hcalls
  cases hcalls with
  | usedAfterFinish hsession hfinished hcommand =>
    rw [h _ hsession hfinished] at hcommand
    cases hcommand

/-- **What a command adds to the notices** is what it calls for, whatever its outcome is. -/
theorem Turn.notes {desk next : Desk} {command : Command} {outcome : Except Failure Reply}
    (hturn : Turn desk command outcome next) (h : Coherent desk) :
    ∃ more, next.notices = desk.notices ++ more ∧ Notes desk (.command command) more := by
  have hsilent : next.notices = desk.notices → (∀ n, ¬Calls desk (.command command) n) →
      ∃ more, next.notices = desk.notices ++ more ∧ Notes desk (.command command) more :=
    fun hsame hnone => ⟨[], hsame.trans (List.append_nil _).symm, .silent hnone⟩
  have hdead : desk.holder? = none → ∀ id, ¬desk.IsLive id := by
    rintro hfree id ⟨_, hs, hlive⟩
    exact h.not_isLive_of_free hfree hs hlive
  -- a session that is not finished refuses nothing
  have hactive : ∀ {id : Nat} {s : Session}, desk.session? id = some s → s.isFinished = false →
      ∀ {command : SessionCommand} (t : Session), desk.session? id = some t →
        t.isFinished = true → command.isRefused = false := by
    intro id s hs hunfinished _ t ht hfinished
    rw [hs] at ht
    cases ht
    rw [hunfinished] at hfinished
    cases hfinished
  cases hturn with
  | built command hquery =>
    refine ⟨_, rfl, .called (.usedAfterBuild command ?_)⟩
    rw [Builder.isBuilt, hquery]
    rfl
  | held command hquery hholder =>
    obtain ⟨hs, hlive⟩ := (h.holder?_iff _ _).mp hholder
    exact ⟨_, rfl, .called (.usedWhileBorrowed command ⟨_, hs, hlive⟩)⟩
  | unpushed _ hquery hfree | pushed _ hquery hfree =>
    refine hsilent (notices_settled desk) (not_calls_of_free hquery (hdead hfree) fun hbuild => ?_)
    cases hbuild
  | separated _ hquery hfree =>
    refine hsilent rfl (not_calls_of_free hquery (hdead hfree) fun hbuild => ?_)
    cases hbuild
  | @build query logged hquery hfree htruth =>
    rw [notices_handedOver, notices_settled, dialect_settled]
    cases logged with
    | true => exact ⟨_, rfl, .called (.built hquery (hdead hfree) htruth)⟩
    | false =>
      refine ⟨_, rfl, .silent (not_calls_of_free hquery (hdead hfree) fun _ hlog => ?_)⟩
      cases htruth.symm.trans hlog
  | lost hquery hfree htruth =>
    -- where the settings do not answer, they do not ask for the log
    refine hsilent (notices_settled desk) (not_calls_of_free hquery (hdead hfree) fun _ hlog => ?_)
    cases htruth.symm.trans hlog
  | refused hsession hfinished hcommand =>
    exact ⟨_, rfl, .called (.usedAfterFinish hsession hfinished hcommand)⟩
  | absent command hsession =>
    refine hsilent rfl (not_calls_of_session fun s hs => ?_)
    rw [hsession] at hs
    cases hs
  | entered | leftAgain => exact hsilent rfl (not_calls_of_session fun _ _ _ => rfl)
  | @finished id s hsession hunfinished | @left id s hsession hunfinished =>
    exact hsilent (notices_released desk id) (not_calls_of_session (hactive hsession hunfinished))
  | unwritten hsession hunfinished | closed hsession hunfinished
  | unseparatedPushed _ hsession hunfinished =>
    exact hsilent rfl (not_calls_of_session (hactive hsession hunfinished))
  | itemPushed _ hsession hunfinished =>
    exact hsilent (notices_withItem ..) (not_calls_of_session (hactive hsession hunfinished))
  | openedDirect | forgotten | registered | assigned =>
    refine hsilent rfl fun n hcalls => ?_
    cases hcalls

/-- **One move.** -/
theorem Coherent.play_notes {desk : Desk} (h : Coherent desk) (move : Move) :
    ∃ more, (desk.play move).notices = desk.notices ++ more ∧ Notes desk move more := by
  cases move with
  | command command => exact (step_turn desk command).notes h
  | question question =>
    refine ⟨[], ?_, .silent fun n hcalls => ?_⟩
    · rw [List.append_nil]
      exact notices_ask desk question
    · cases hcalls

/-! ## Runs -/

/-- The notices of a run, each called for at the desk where the move is made. -/
inductive Logs : Desk → List Move → List Notice → Prop
  | nil (desk : Desk) : Logs desk [] []
  | cons {desk : Desk} {move : Move} {rest : List Move} {more log : List Notice}
      (hmore : Notes desk move more) (hrest : Logs (desk.play move) rest log) :
      Logs desk (move :: rest) (more ++ log)

/-- **A run adds to the notices what its moves call for**, in order. -/
theorem Coherent.logs {desk : Desk} (h : Coherent desk) (moves : List Move) :
    ∃ log, (desk.played moves).notices = desk.notices ++ log ∧ Logs desk moves log := by
  induction moves generalizing desk with
  | nil => exact ⟨[], (List.append_nil _).symm, .nil desk⟩
  | cons move rest ih =>
    obtain ⟨more, hmore, hnotes⟩ := h.play_notes move
    obtain ⟨log, hlog, hlogs⟩ := ih (h.play move)
    refine ⟨more ++ log, ?_, .cons hnotes hlogs⟩
    rw [played_cons, hlog, hmore, List.append_assoc]

/-! ## All of it -/

/-- A notice of a query is called for just where the query is handed out and the settings ask for
the log, and it has the query that is handed out. -/
theorem Coherent.calls_built_iff {desk : Desk} (h : Coherent desk) {name query : String} :
    Calls desk (.command (.builder .build)) (.built name query)
      ↔ (desk.step (.builder .build)).1 = .ok (.query query)
        ∧ desk.settings.logQueries.truth? = .ok true ∧ name = desk.builder.dialect.name := by
  constructor
  · intro hcalls
    cases hcalls with
    | built hquery hdead hlog =>
      have hfree : desk.holder? = none := by
        cases hholder : desk.holder? with
        | none => rfl
        | some held =>
          obtain ⟨id, s⟩ := held
          exact absurd ⟨s, (h.holder?_iff id s).mp hholder⟩ (hdead id)
      rw [(Turn.build hquery hfree hlog).step_eq]
      exact ⟨rfl, hlog, rfl⟩
  · rintro ⟨hbuild, hlog, rfl⟩
    have hturn := step_turn desk (.builder .build)
    rw [hbuild] at hturn
    generalize (desk.step (.builder .build)).2 = next at hturn
    cases hturn with
    | build hquery hfree =>
      exact .built hquery (fun id ⟨_, hs, hlive⟩ => h.not_isLive_of_free hfree hs hlive) hlog

/-- What is noticed from a new desk on, whatever is commanded and asked. -/
structure LogsExactly (settings : Settings) (start : Desk) : Prop where
  /-- The notices are those that the moves called for, each by the desk before it. -/
  log : ∀ moves, Logs start moves (start.played moves).notices
  /-- A move calls for one notice at most. -/
  unique : ∀ moves move n other, Calls (start.played moves) move n →
    Calls (start.played moves) move other → n = other
  /-- The notice of a query has the name of the dialect and the query that is handed out, and there
  is one wherever a query is handed out while the settings ask for the log. -/
  built : ∀ moves name query,
    Calls (start.played moves) (.command (.builder .build)) (.built name query)
      ↔ ((start.played moves).step (.builder .build)).1 = .ok (.query query)
        ∧ (settings.assignAll (assignments (Move.commands moves))).logQueries.truth? = .ok true
        ∧ name = (start.played moves).builder.dialect.name
  /-- A question is answered, and nobody can tell that it was asked. -/
  unnoticed : ∀ moves question, ∃ answer,
    ((start.played moves).ask question).1 = .ok answer
      ∧ ((start.played moves).ask question).2.LooksLike (start.played moves)

/-- **Misuse is noticed, and queries that are handed out while the settings ask for it, and nothing
else**, in every run from a new desk, whatever its settings are. -/
theorem logsExactly {registries : Registries} {settings : Settings} {choice : DialectChoice}
    {init : Value} {start : Desk} (hnew : new? registries settings choice init = .ok start) :
    LogsExactly settings start := by
  have hstart := coherent_new hnew
  obtain ⟨dialect, text, -, rfl⟩ := new?_eq_ok hnew
  refine {
    log := fun moves => ?log
    unique := fun moves _ _ _ => (hstart.played moves).calls_unique
    built := fun moves name query => ?built
    unnoticed := fun moves question => ?unnoticed }
  case log =>
    obtain ⟨log, hlog, hlogs⟩ := hstart.logs moves
    rw [hlog]
    exact hlogs
  case built => rw [(hstart.played moves).calls_built_iff, settings_played]
  case unnoticed =>
    obtain ⟨answer, next, hask, -⟩ := ask_eq (played _ moves) question
    exact ⟨answer, by rw [hask], (hstart.played moves).looksLike_ask question⟩

/-- A builder that is used while a session holds it, a session that is finished twice and then left,
and a query that is handed out after the log was asked for. In between there are an item without a
literal and two questions. -/
def noisy : List Move :=
  [.command (.builder (.separated (.text ", "))),
    .command (.session 0 (.push (.literal (.int 1)))),
    .command (.session 0 (.push (.literal (.bytes [])))),
    .command (.builder (.push (.raw (.text ")")))), .question .isBorrowed,
    .command (.session 0 .finish), .command (.session 0 .finish), .command (.session 0 .leave),
    .command (.assign .logQueries (.text "yes")), .command (.builder .build), .question .inspected,
    .command (.builder (.separated .null))]

theorem logsExactly_noisy :
    new? {} {} (.given { name := "mysql" }) (.text "IN ") = .ok (plain "IN ")
      ∧ LogsExactly {} (plain "IN ")
      ∧ Logs (plain "IN ") noisy
        [.usedWhileBorrowed, .usedAfterFinish, .built "mysql" "IN 1", .usedAfterBuild] := by
  have hlogs := logsExactly (new?_plain "IN ")
  have hnotices : ((plain "IN ").played noisy).notices
      = [.usedWhileBorrowed, .usedAfterFinish, .built "mysql" "IN 1", .usedAfterBuild] := rfl
  refine ⟨new?_plain "IN ", hlogs, ?_⟩
  rw [← hnotices]
  exact hlogs.log noisy

end Desk

end SqlText
